import SimTerm.Proofs.Yaml.Assembly
import SimTerm.Registry

/-!
# Records from Texts

What comes of a text that is read as a workflow or as a theme.

A reading gives a record, a reason for a refusal, or it breaks off. `Gives` says
of a reading that its record is of some kind, and that it breaks off in some ways
only. It is carried through the fields of a record one by one. A field asks two
things: what is required of it, which goes into the record, and whether its value
can be shown, since a number with too many digits fails there like a conversion,
and a value with too many levels breaks the reading off as well (`Fits`).

For a whole text there are two ways to break off. A conversion fails only in a
text that does not convert (`Converting`), since otherwise no number in it is too
long. And the reading gets too deep only in a text that is nested too deep
(`TooDeep`), of which a mapping that has its own text under its value key is the
shortest. So a record is complete or there is none with one report of the reason,
except for such texts (`read_fails_closed`). And there are such texts, as simple
as a date that is in no calendar (`read_breaks`).

## Main definitions

* `Schema.Gives`: What a reading gives.
* `Schema.Fits`: Only what breaks a reading off keeps a value from being shown.
* `Workflow.IsComplete`, `Theme.IsComplete`: What a record has to have.

## Theorems

* `gives_workflow`, `gives_theme`: What the entries of a document give.
* `read_fails_closed`: What is read from a text.
* `read_breaks`: A text from which reading breaks off.
-/

namespace SimTerm

/-- A text is not blank. -/
def IsFilled (text : String) : Prop := (trimmed text).isEmpty = false

/-- A workflow has a name and a command, its shells are known, and each of its
    arguments has a name. -/
structure Workflow.IsComplete (w : Workflow) : Prop where
  name : IsFilled w.name
  command : IsFilled w.command
  shells : ∀ shell ∈ w.shells, shell ∈ Persona.names
  arguments : ∀ a ∈ w.arguments, IsFilled a.name

/-- A theme has its three colours, says how details are drawn, and has both
    palettes with all their colours. -/
structure Theme.IsComplete (t : Theme) : Prop where
  accent : IsFilled t.accent
  background : IsFilled t.background
  foreground : IsFilled t.foreground
  details : t.details ≠ ""
  normal : ∀ c, IsFilled (t.normal.get c)
  bright : ∀ c, IsFilled (t.bright.get c)

namespace Schema

open Yaml (Value Converting TooDeep Halt)

variable {α β : Type} {E : Halt → Prop}

/-- A reading gives something that `Q` holds of, or a reason for a refusal. It
    breaks off only in a way that `E` holds of. -/
def Gives (E : Halt → Prop) (r : Except Fault α) (Q : α → Prop) : Prop :=
  match r with
  | .ok a => Q a
  | .error (.refused _) => True
  | .error (.halted h) => E h

namespace Gives

variable {r : Except Fault α} {Q R : α → Prop}

protected theorem ok {a : α} (ha : Q a) : Gives E (.ok a) Q := ha

protected theorem refused (reason : Reason) : Gives E (.error (.refused reason)) Q := trivial

protected theorem bind {k : α → Except Fault β} {S : β → Prop} (h : Gives E r R)
    (hk : ∀ a, R a → Gives E (k a) S) : Gives E (r >>= k) S := by
  cases r with
  | ok a => exact hk a h
  | error e => cases e <;> exact h

/-- What ends a reading ends it whatever was to be read. -/
protected theorem error {e : Fault} {S : β → Prop} (h : Gives E (.error e : Except Fault α) R) :
    Gives E (.error e : Except Fault β) S := by
  cases e <;> exact h

protected theorem mono (h : Gives E r R) (himp : ∀ a, R a → Q a) : Gives E r Q := by
  cases r with
  | ok a => exact himp a h
  | error e => exact h.error

protected theorem map {f : α → β} {S : β → Prop} (h : Gives E r R) (hf : ∀ a, R a → S (f a)) :
    Gives E (r.map f) S := by
  cases r with
  | ok a => exact hf a h
  | error e => exact h.error

protected theorem mapM {xs : List α} {f : α → Except Fault β} {S : β → Prop}
    (h : ∀ x ∈ xs, Gives E (f x) S) : Gives E (xs.mapM f) (fun ys => ∀ y ∈ ys, S y) := by
  induction xs with
  | nil => exact fun _ hy => absurd hy List.not_mem_nil
  | cons x rest ih =>
      rw [List.mapM_cons]
      refine .bind (h x List.mem_cons_self) fun y hy => ?_
      refine .bind (ih fun z hz => h z (List.mem_cons_of_mem x hz)) fun ys hys => ?_
      exact .ok (List.forall_mem_cons.mpr ⟨hy, hys⟩)

end Gives

/-! ### Fields -/

/-- Whatever keeps a value from being shown breaks a reading off in a way that `E`
    holds of. -/
def Fits (E : Halt → Prop) (v : Value) : Prop :=
  ∀ u, v.Hinders Json.maxLevels u → E (haltOf u)

/-- The values of some entries fit. -/
def Shows (E : Halt → Prop) (data : Entries) : Prop := ∀ e ∈ data, Fits E e.2

theorem gives_shown (text : Except Unwritable α) (h : ∀ u, text = .error u → E (haltOf u)) :
    Gives E (shown text) (fun _ => True) := by
  cases text with
  | ok a => exact .ok trivial
  | error u => exact h u rfl

theorem gives_display (v : Value) (hv : Fits E v) : Gives E (shown v.display) (fun _ => True) :=
  gives_shown _ fun u hu => hv u (v.hinders_of_display u hu)

theorem shows_lookup? (data : Entries) (hdata : Shows E data) (key : String) (v : Value)
    (h : Value.lookup? data key = some v) : Fits E v := by
  rcases Option.map_eq_some_iff.mp h with ⟨e, he, hv⟩
  rw [← hv]
  exact hdata e (List.mem_of_find?_eq_some he)

theorem shows_field? (data : Entries) (hdata : Shows E data) (key : String) (v : Value)
    (h : field? data key = some v) : Fits E v := by
  unfold field? at h
  split at h
  · exact absurd h (by simp only [reduceCtorEq, not_false_eq_true])
  · exact shows_lookup? data hdata key v h

theorem gives_scalarText (key : String) (v : Value) (hv : Fits E v) :
    Gives E (scalarText key v) (fun _ => True) := by
  unfold scalarText
  split
  · exact .refused _
  · exact gives_display v hv

theorem gives_scalar (data : Entries) (hdata : Shows E data) (key : String) :
    Gives E (scalar data key) (fun _ => True) := by
  unfold scalar
  split
  · exact .ok trivial
  case h_2 v hv =>
    exact (gives_scalarText key v (shows_field? data hdata key v hv)).map fun _ _ => trivial

/-- What is required is there and is not blank. -/
theorem gives_required (data : Entries) (hdata : Shows E data) (key : String) :
    Gives E (required data key) IsFilled := by
  unfold required
  split
  · exact .refused _
  case h_2 v hv =>
    have hgives := gives_scalarText key v (shows_field? data hdata key v hv)
    split
    case h_1 e he =>
      rw [he] at hgives
      exact hgives.error
    case h_2 text _ =>
      -- A text that is there may still be blank.
      split
      · exact .refused _
      case isFalse hblank => exact .ok (Bool.eq_false_iff.mpr hblank)

/-- What keeps the value of an entry from being shown keeps the mapping from it. -/
theorem shows_entriesOf (node : Nat) (data : Entries) (h : Fits E (Value.mapping node data)) :
    Shows E data :=
  fun _ he u hu => h u (.weaken (.of_entry he (.inr hu)))

theorem shows_items (node : Nat) (items : List Value) (h : Fits E (Value.sequence node items)) :
    ∀ item ∈ items, Fits E item :=
  fun _ hitem u hu => h u (.weaken (.of_item hitem hu))

theorem gives_textsOf (key : String) (v : Value) (hv : Fits E v) :
    Gives E (textsOf key v) (fun _ => True) := by
  unfold textsOf
  split
  · exact .ok trivial
  · split
    · exact .refused _
    case isFalse node items _ =>
      -- The items of a list are shown one by one.
      have hitems := shows_items node items hv
      have hall : Gives E (items.mapM fun v => shown v.display) (fun ys => ∀ y ∈ ys, True) :=
        .mapM fun item hitem => gives_display item (hitems item hitem)
      exact hall.mono fun _ _ => trivial
  case h_3 node entries =>
    exact gives_shown _ fun u hu => hv u (Value.hinders_of_pairTexts node entries u hu)
  · exact .refused _

theorem gives_texts (data : Entries) (hdata : Shows E data) (key : String) :
    Gives E (texts data key) (fun _ => True) := by
  unfold texts
  split
  · exact .ok trivial
  case h_2 v hv => exact gives_textsOf key v (shows_field? data hdata key v hv)

/-! ### Workflows -/

theorem gives_shellsOf (data : Entries) (hdata : Shows E data) :
    Gives E (Workflow.shellsOf data) (fun names => ∀ n ∈ names, n ∈ Persona.names) := by
  unfold Workflow.shellsOf
  have hgives := gives_texts data hdata "shells"
  split
  case h_1 e he =>
    rw [he] at hgives
    exact hgives.error
  case h_2 names _ =>
    dsimp only
    -- The shells are taken if there is none among them that is not known.
    split
    case h_1 hunknown =>
      intro n hn
      have hknown := List.filter_eq_nil_iff.mp hunknown n hn
      simpa using hknown
    case h_2 => exact .refused _

theorem gives_argumentOf (v : Value) (hv : Fits E v) :
    Gives E (Workflow.argumentOf v) (fun a => IsFilled a.name) := by
  unfold Workflow.argumentOf
  split
  case h_1 node entry =>
    have hentry := shows_entriesOf node entry hv
    refine .bind (gives_required entry hentry "name") fun name hname => ?_
    refine .bind (gives_scalar entry hentry "description") fun _ _ => ?_
    exact .bind (gives_scalar entry hentry "default_value") fun _ _ => .ok hname
  case h_2 => exact .refused _

theorem gives_argumentsOf (data : Entries) (hdata : Shows E data) :
    Gives E (Workflow.argumentsOf data) (fun as => ∀ a ∈ as, IsFilled a.name) := by
  -- The arguments stand under one of two keys.
  have hfield : ∀ v, Workflow.argumentsField? data = some v → Fits E v := by
    intro v hv
    unfold Workflow.argumentsField? at hv
    split at hv
    · exact absurd hv (by simp only [reduceCtorEq, not_false_eq_true])
    · rcases Option.or_eq_some_iff.mp hv with h | ⟨_, h⟩
      · exact shows_lookup? data hdata _ v h
      · exact shows_lookup? data hdata _ v h
  unfold Workflow.argumentsOf
  split
  case h_1 => exact fun _ ha => absurd ha List.not_mem_nil
  case h_2 node items hv =>
    have hitems := shows_items node items (hfield _ hv)
    exact .mapM fun item hitem => gives_argumentOf item (hitems item hitem)
  case h_3 => exact fun _ ha => absurd ha List.not_mem_nil
  case h_4 => exact .refused _
  case h_5 => exact .refused _

theorem gives_workflow (data : Entries) (hdata : Shows E data) :
    Gives E (Workflow.ofEntries data) Workflow.IsComplete := by
  unfold Workflow.ofEntries
  refine .bind (gives_shellsOf data hdata) fun shells hshells => ?_
  refine .bind (gives_required data hdata "name") fun name hname => ?_
  refine .bind (gives_required data hdata "command") fun command hcommand => ?_
  refine .bind (gives_scalar data hdata "description") fun _ _ => ?_
  refine .bind (gives_texts data hdata "tags") fun _ _ => ?_
  refine .bind (gives_argumentsOf data hdata) fun arguments harguments => ?_
  refine .bind (gives_scalar data hdata "source_url") fun _ _ => ?_
  refine .bind (gives_scalar data hdata "author") fun _ _ => ?_
  refine .bind (gives_scalar data hdata "author_url") fun _ _ => ?_
  exact .ok ⟨hname, hcommand, hshells, harguments⟩

/-! ### Themes -/

theorem gives_palette (data : Entries) (hdata : Shows E data) :
    Gives E (Theme.paletteOfEntries data) (fun p => ∀ c, IsFilled (p.get c)) := by
  unfold Theme.paletteOfEntries
  have hlook := fun c : Colour => gives_required data hdata c.name
  refine .bind (hlook .black) fun black hblack => .bind (hlook .red) fun red hred => ?_
  refine .bind (hlook .green) fun green hgreen => .bind (hlook .yellow) fun yellow hyellow => ?_
  refine .bind (hlook .blue) fun blue hblue => .bind (hlook .magenta) fun magenta hmagenta => ?_
  refine .bind (hlook .cyan) fun cyan hcyan => .bind (hlook .white) fun white hwhite => ?_
  refine .ok fun c => ?_
  cases c with
  | black => exact hblack
  | red => exact hred
  | green => exact hgreen
  | yellow => exact hyellow
  | blue => exact hblue
  | magenta => exact hmagenta
  | cyan => exact hcyan
  | white => exact hwhite

theorem gives_paletteOf (groups : Entries) (hgroups : Shows E groups) (group : String) :
    Gives E (Theme.paletteOf groups group) (fun p => ∀ c, IsFilled (p.get c)) := by
  unfold Theme.paletteOf
  split
  case h_1 node data hv =>
    exact gives_palette data (shows_entriesOf node data (shows_lookup? groups hgroups _ _ hv))
  case h_2 => exact .refused _

theorem detailsOf_ne (text : Option String) : Theme.detailsOf text ≠ "" := by
  unfold Theme.detailsOf
  split
  · decide
  · split
    · decide
    case isFalse h => exact fun heq => h (String.isEmpty_iff.mpr heq)

theorem gives_theme (data : Entries) (hdata : Shows E data) :
    Gives E (Theme.ofEntries data) Theme.IsComplete := by
  unfold Theme.ofEntries
  split
  case h_1 node groups hv =>
    have hgroups := shows_entriesOf node groups (shows_lookup? data hdata _ _ hv)
    refine .bind (gives_required data hdata "accent") fun accent haccent => ?_
    refine .bind (gives_required data hdata "background") fun background hbackground => ?_
    refine .bind (gives_required data hdata "foreground") fun foreground hforeground => ?_
    refine .bind (gives_scalar data hdata "details") fun details _ => ?_
    refine .bind (gives_paletteOf groups hgroups "normal") fun normal hnormal => ?_
    refine .bind (gives_paletteOf groups hgroups "bright") fun bright hbright => ?_
    exact .ok ⟨haccent, hbackground, hforeground, detailsOf_ne details, hnormal, hbright⟩
  case h_2 => exact .refused _

/-! ### Texts -/

/-- A text gives a record of the kind that its entries give, and its reading breaks
    off only in the ways that the text allows for. -/
theorem gives_ofText (text : String) (ofEntries : Entries → Except Fault α) (Q : α → Prop)
    (h : ∀ data, Shows (Yaml.Breaks text.toList) data →
      Gives (Yaml.Breaks text.toList) (ofEntries data) Q) :
    Gives (Yaml.Breaks text.toList) (valueOf text >>= fun v => entriesOf v >>= ofEntries) Q := by
  have hvalue : Gives (Yaml.Breaks text.toList) (valueOf text)
      (Fits (Yaml.Breaks text.toList)) := by
    unfold valueOf
    rcases Value.ofText_cases text.toList with ⟨v, hv, hshow⟩ | ⟨f, hf, hbreaks⟩
    · rw [hv]
      refine .ok fun u hinders => ?_
      cases u with
      | tooManyDigits => exact mt hshow hinders
      | tooDeep => exact .levels v hv hinders
    · rw [hf]
      cases f with
      | halted h => exact hbreaks h rfl
      | malformed p => exact .refused _
      | unprintable c position => exact .refused _
  refine .bind hvalue fun v hv => ?_
  unfold entriesOf
  split
  case h_1 node data => exact h data (shows_entriesOf node data hv)
  case h_2 => exact .refused _

theorem accepted_cases (report : String → Event) (r : Except Fault α) (Q : α → Prop)
    (h : Gives E r Q) :
    (∃ a, accepted report r = .ok ⟨some a, []⟩ ∧ Q a) ∨
      (∃ reason, accepted report r = .ok ⟨none, [report reason]⟩) ∨
      (∃ c, accepted report r = .error (.conversion c) ∧ E (.conversion c)) ∨
      (accepted report r = .error .tooDeep ∧ E .tooDeep) := by
  cases r with
  | ok a => exact .inl ⟨a, rfl, h⟩
  | error f =>
      cases f with
      | refused reason => exact .inr (.inl ⟨reason.message, rfl⟩)
      | halted halt =>
          cases halt with
          | conversion c => exact .inr (.inr (.inl ⟨c, rfl, h⟩))
          | tooDeep => exact .inr (.inr (.inr ⟨rfl, h⟩))

/-- A record that is accepted is of the kind that its reading gives. -/
theorem Gives.of_accepted {report : String → Event} {r : Except Fault α} {Q : α → Prop} {a : α}
    {events : List Event} (h : Gives E r Q) (ha : accepted report r = .ok ⟨some a, events⟩) :
    Q a := by
  cases r with
  | ok b =>
      simp only [accepted, Except.ok.injEq, Traced.mk.injEq, Option.some.injEq] at ha
      exact ha.1 ▸ h
  | error f => cases f <;> simp [accepted] at ha

/-- A reading that has a record has gone through. -/
theorem exists_ok_of_value {r : Except Halt (Traced (Option α))} {a : α}
    (h : r.toOption.bind Traced.value = some a) : ∃ events, r = .ok ⟨some a, events⟩ := by
  rcases r with f | ⟨value, events⟩
  · exact absurd h (by simp only [Except.toOption, Option.bind_none, reduceCtorEq,
      not_false_eq_true])
  · refine ⟨events, ?_⟩
    rw [← show value = some a from h]

/-- Whatever a text says, reading it gives a complete record, or none and one
    report of the reason. It breaks off only for a text in which something is to
    be converted and cannot be, or for one in which something is nested too deep. -/
theorem read_fails_closed (text : String) :
    ((∃ w, Workflow.read text = .ok ⟨some w, []⟩ ∧ w.IsComplete) ∨
      (∃ reason, Workflow.read text = .ok ⟨none, [.workflowRejected reason]⟩) ∨
      (∃ c, Workflow.read text = .error (.conversion c) ∧ ¬ Converting text.toList) ∨
      (Workflow.read text = .error .tooDeep ∧ TooDeep text.toList)) ∧
    ((∃ t, Theme.read text = .ok ⟨some t, []⟩ ∧ t.IsComplete) ∨
      (∃ reason, Theme.read text = .ok ⟨none, [.themeRejected reason]⟩) ∨
      (∃ c, Theme.read text = .error (.conversion c) ∧ ¬ Converting text.toList) ∨
      (Theme.read text = .error .tooDeep ∧ TooDeep text.toList)) :=
  ⟨accepted_cases _ _ _ (gives_ofText text Workflow.ofEntries _ gives_workflow),
    accepted_cases _ _ _ (gives_ofText text Theme.ofEntries _ gives_theme)⟩

example : ((Workflow.read "name: 2001-12-14\ncommand: 0x1F").toOption.bind Traced.value).map
    (fun w => (w.name, w.command)) = some ("2001-12-14", "31") := by decide +kernel

-- The text of this mapping would be its own text.
example : (Workflow.read "&a !!str \x7b=: *a\x7d").isOk = false := by decide +kernel

/-- A text that looks like a date and is none breaks the reading off. -/
theorem read_breaks :
    Workflow.read "2001-13-45" = .error (.conversion .badNumber) ∧
      Theme.read "2001-13-45" = .error (.conversion .badNumber) := by
  constructor <;> rfl

end Schema

end SimTerm
