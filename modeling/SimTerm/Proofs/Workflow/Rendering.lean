import SimTerm.Proofs.Fields
import SimTerm.Workflow

/-!
# Commands with Placeholders Filled

What a workflow renders to, said without the reader of templates.

A placeholder stands at a place of a text if the text goes on there with two
opening braces, a name without braces, and two closing braces. So a place is
known by the text in front of it (`StandsIn`). Braces may come in longer runs,
but two placeholders never overlap, since the only place inside one at which a
placeholder can start is its own beginning (`standsIn_source_append`).

The reader divides a text into characters and placeholders, and `Divides` says
what makes that right: put together again the parts are the text, and the
places of the placeholders among the parts are all the places where the text
has one. That is an induction along the reader. A placeholder is read where one
stands, and a character only where none does.

Rendering then writes the parts one after the other, each placeholder as what
fills it (`render_replaces`). What is written is not looked at again, whatever
it says.

## Main definitions

* `TemplatePart.IsInner`: What may stand between the braces of a placeholder.
* `TemplatePart.StandsIn`: A placeholder stands at a place of a text.
* `TemplatePart.places`: The places of the placeholders among some parts.
* `TemplatePart.Divides`: Some parts are those of a text.
* `Workflow.Fills`: What a placeholder is written as.

## Theorems

* `placeholder?_eq_some_iff`: What the reader takes for a placeholder.
* `standsIn_apart`: Two placeholders of a text do not overlap.
* `divides_ofText`: The reader divides a text rightly.
* `render_replaces`: What is rendered.
-/

namespace SimTerm

namespace TemplatePart

/-- What may stand between the braces of a placeholder: at least one character,
    and no brace. -/
structure IsInner (inner : List Char) : Prop where
  ne_nil : inner ≠ []
  braceless : ∀ c ∈ inner, c ≠ '\x7b' ∧ c ≠ '\x7d'

/-- A text has a placeholder right behind some of its characters. -/
structure StandsIn (text before inner : List Char) : Prop where
  isInner : IsInner inner
  isPrefix : before ++ (placeholder inner).source <+: text

/-- The placeholders among some parts, each with what stands in front of it. -/
def places : List TemplatePart → List (List Char × List Char)
  | [] => []
  | .character c :: rest => (places rest).map (fun p => (c :: p.1, p.2))
  | .placeholder inner :: rest =>
    ([], inner) :: (places rest).map (fun p => ((placeholder inner).source ++ p.1, p.2))

/-- Some parts make up a text, and its placeholders are those among the parts. -/
structure Divides (parts : List TemplatePart) (text : List Char) : Prop where
  source : parts.flatMap TemplatePart.source = text
  places : ∀ before inner, (before, inner) ∈ places parts ↔ StandsIn text before inner

/-- A part as it is written if each placeholder is written as something else. -/
def written (f : List Char → List Char) : TemplatePart → List Char
  | .character c => [c]
  | .placeholder inner => f inner

/-! ### The reader of placeholders -/

theorem isPlain_iff (c : Char) : isPlain c = true ↔ c ≠ '\x7b' ∧ c ≠ '\x7d' := by
  simp only [isPlain, Bool.and_eq_true, bne_iff_ne]

/-- A run of characters that are no braces ends at the first brace. -/
theorem takeWhile_isPlain_append {inner : List Char} (h : IsInner inner) (rest : List Char) :
    (inner ++ '\x7d' :: rest).takeWhile isPlain = inner := by
  rw [List.takeWhile_append_of_pos fun c hc => (isPlain_iff c).mpr (h.braceless c hc),
    List.takeWhile_cons_of_neg (by decide), List.append_nil]

theorem dropWhile_isPlain_append {inner : List Char} (h : IsInner inner) (rest : List Char) :
    (inner ++ '\x7d' :: rest).dropWhile isPlain = '\x7d' :: rest := by
  rw [List.dropWhile_append_of_pos fun c hc => (isPlain_iff c).mpr (h.braceless c hc),
    List.dropWhile_cons_of_neg (by decide)]

theorem source_append (inner rest : List Char) :
    (placeholder inner).source ++ rest =
      '\x7b' :: '\x7b' :: (inner ++ '\x7d' :: '\x7d' :: rest) := by
  simp only [source, List.append_assoc, List.cons_append, List.nil_append]

/-- The reader takes for a placeholder what is one. -/
theorem placeholder?_eq_some_iff (cs inner rest : List Char) :
    placeholder? cs = some (inner, rest) ↔
      IsInner inner ∧ cs = (placeholder inner).source ++ rest := by
  constructor
  · intro h
    unfold placeholder? at h
    split at h
    case h_1 tail =>
      split at h
      · exact absurd h (by simp only [reduceCtorEq, not_false_eq_true])
      case isFalse hne =>
        split at h
        case h_1 after hafter =>
          simp only [Option.some.injEq, Prod.mk.injEq] at h
          rcases h with ⟨rfl, rfl⟩
          refine ⟨⟨fun hnil => hne (List.isEmpty_iff.mpr hnil), fun c hc => ?_⟩, ?_⟩
          · exact (isPlain_iff c).mp (List.all_eq_true.mp List.all_takeWhile c hc)
          · rw [source_append, ← hafter, List.takeWhile_append_dropWhile]
        case h_2 => exact absurd h (by simp only [reduceCtorEq, not_false_eq_true])
    case h_2 => exact absurd h (by simp only [reduceCtorEq, not_false_eq_true])
  · rintro ⟨hinner, rfl⟩
    rw [source_append, placeholder?, takeWhile_isPlain_append hinner,
      dropWhile_isPlain_append hinner,
      if_neg (fun hnil => hinner.ne_nil (List.isEmpty_iff.mp hnil))]
    rfl

/-! ### Places -/

/-- A placeholder at the beginning of a text is what the reader finds there. -/
theorem standsIn_nil_iff (text inner : List Char) :
    StandsIn text [] inner ↔ ∃ rest, placeholder? text = some (inner, rest) := by
  constructor
  · rintro ⟨hinner, rest, htext⟩
    exact ⟨rest, (placeholder?_eq_some_iff _ _ _).mpr ⟨hinner, htext.symm⟩⟩
  · rintro ⟨rest, hread⟩
    rcases (placeholder?_eq_some_iff _ _ _).mp hread with ⟨hinner, htext⟩
    exact ⟨hinner, rest, htext.symm⟩

theorem standsIn_cons_cons (c d : Char) (text before inner : List Char) :
    StandsIn (c :: text) (d :: before) inner ↔ d = c ∧ StandsIn text before inner := by
  constructor
  · rintro ⟨hinner, hinit⟩
    rw [List.cons_append, List.cons_prefix_cons] at hinit
    exact ⟨hinit.1, hinner, hinit.2⟩
  · rintro ⟨rfl, hinner, hinit⟩
    exact ⟨hinner, by rw [List.cons_append, List.cons_prefix_cons]; exact ⟨rfl, hinit⟩⟩

theorem not_standsIn_nil (before inner : List Char) : ¬ StandsIn [] before inner := by
  rintro ⟨_, hinit⟩
  have hnil := List.prefix_nil.mp hinit
  rw [source, List.append_assoc, List.append_eq_nil_iff] at hnil
  exact absurd hnil.2 (List.cons_ne_nil _ _)

/-- A placeholder starts with two opening braces. -/
theorem opening_of_standsIn {text inner : List Char} (h : StandsIn text [] inner) :
    ∃ c rest, text = '\x7b' :: '\x7b' :: c :: rest ∧ c ≠ '\x7b' ∧ c ≠ '\x7d' := by
  rcases h with ⟨hinner, rest, htext⟩
  rw [List.nil_append, source_append] at htext
  cases inner with
  | nil => exact absurd rfl hinner.ne_nil
  | cons c cs =>
      exact ⟨c, _, htext.symm, hinner.braceless c List.mem_cons_self⟩

/-- In a run without opening braces no placeholder starts. -/
theorem standsIn_braceless_append (run rest before inner : List Char)
    (hrun : ∀ c ∈ run, c ≠ '\x7b') :
    StandsIn (run ++ rest) before inner ↔
      ∃ behind, before = run ++ behind ∧ StandsIn rest behind inner := by
  induction run generalizing before with
  | nil => simp only [List.nil_append, exists_eq_left']
  | cons c run ih =>
      have hrest := fun before => ih before fun d hd => hrun d (List.mem_cons_of_mem c hd)
      cases before with
      | nil =>
          refine ⟨fun h => ?_, fun ⟨_, hnil, _⟩ => absurd hnil.symm (List.cons_ne_nil _ _)⟩
          rcases opening_of_standsIn h with ⟨_, _, heq, _⟩
          exact absurd (List.cons.inj heq).1 (hrun c List.mem_cons_self)
      | cons d before =>
          rw [List.cons_append, standsIn_cons_cons, hrest]
          constructor
          · rintro ⟨rfl, behind, rfl, h⟩
            exact ⟨behind, rfl, h⟩
          · rintro ⟨behind, heq, h⟩
            rcases List.cons.inj heq with ⟨rfl, rfl⟩
            exact ⟨rfl, behind, rfl, h⟩

/-- Where a text starts with a placeholder, the next one starts behind it. -/
theorem standsIn_source_append {inner : List Char} (hinner : IsInner inner)
    (rest before other : List Char) :
    StandsIn ((placeholder inner).source ++ rest) before other ↔
      (before = [] ∧ other = inner) ∨
        ∃ behind, before = (placeholder inner).source ++ behind ∧ StandsIn rest behind other := by
  -- The name and the closing braces go together, as they hold no opening brace.
  have hsource : (placeholder inner).source ++ rest =
      '\x7b' :: '\x7b' :: ((inner ++ ['\x7d', '\x7d']) ++ rest) := by
    rw [source_append, List.append_assoc]
    rfl
  have hrun : ∀ c ∈ inner ++ ['\x7d', '\x7d'], c ≠ '\x7b' := by
    intro c hc
    rcases List.mem_append.mp hc with hc | hc
    · exact (hinner.braceless c hc).1
    · simp only [List.mem_cons, List.not_mem_nil, or_false, or_self] at hc
      rw [hc]
      decide
  match before with
  | [] =>
      rw [standsIn_nil_iff]
      constructor
      · rintro ⟨after, hread⟩
        have hself := (placeholder?_eq_some_iff _ inner rest).mpr ⟨hinner, rfl⟩
        rw [hself] at hread
        exact .inl ⟨rfl, (Prod.mk.inj (Option.some.inj hread)).1.symm⟩
      · rintro (⟨_, rfl⟩ | ⟨behind, hnil, _⟩)
        · exact ⟨rest, (placeholder?_eq_some_iff _ _ _).mpr ⟨hinner, rfl⟩⟩
        · rw [source_append] at hnil
          exact absurd hnil.symm (List.cons_ne_nil _ _)
  | [d] =>
      -- Behind one brace a second one follows, and then the name.
      refine ⟨fun h => ?_, ?_⟩
      · rw [hsource, standsIn_cons_cons] at h
        rcases opening_of_standsIn h.2 with ⟨_, _, heq, _⟩
        cases inner with
        | nil => exact absurd rfl hinner.ne_nil
        | cons c cs =>
            have hc := (List.cons.inj (List.cons.inj heq).2).1
            exact absurd hc (hinner.braceless c List.mem_cons_self).1
      · rintro (⟨hnil, _⟩ | ⟨behind, heq, _⟩)
        · exact absurd hnil (List.cons_ne_nil _ _)
        · rw [source_append] at heq
          exact absurd (List.cons.inj heq).2.symm (List.cons_ne_nil _ _)
  | d :: e :: before =>
      rw [hsource, standsIn_cons_cons, standsIn_cons_cons, standsIn_braceless_append _ _ _ _ hrun]
      constructor
      · rintro ⟨rfl, rfl, behind, rfl, h⟩
        exact .inr ⟨behind, by rw [source_append, List.append_assoc]; rfl, h⟩
      · rintro (⟨hnil, _⟩ | ⟨behind, heq, h⟩)
        · exact absurd hnil (List.cons_ne_nil _ _)
        · rw [source_append] at heq
          rcases List.cons.inj heq with ⟨rfl, htail⟩
          rcases List.cons.inj htail with ⟨rfl, rfl⟩
          exact ⟨rfl, rfl, behind, by rw [List.append_assoc]; rfl, h⟩

/-- Two placeholders of a text are the same, or one ends before the other one
    starts. -/
theorem standsIn_apart (text : List Char) {before inner before' inner' : List Char}
    (h : StandsIn text before inner) (h' : StandsIn text before' inner') :
    (before = before' ∧ inner = inner') ∨
      before ++ (placeholder inner).source <+: before' ∨
      before' ++ (placeholder inner').source <+: before := by
  -- Said for a place and a later one.
  have hlater : ∀ {first behind i j : List Char}, StandsIn text first i →
      StandsIn text (first ++ behind) j →
      (behind = [] ∧ i = j) ∨ first ++ (placeholder i).source <+: first ++ behind := by
    rintro first behind i j ⟨hi, rest, rfl⟩ ⟨hj, after, hafter⟩
    have hstands : StandsIn ((placeholder i).source ++ rest) behind j := by
      have hsame : first ++ (behind ++ (placeholder j).source ++ after) =
          first ++ ((placeholder i).source ++ rest) := by
        rw [← List.append_assoc, ← List.append_assoc, hafter, List.append_assoc]
      exact ⟨hj, after, List.append_cancel_left hsame⟩
    rcases (standsIn_source_append hi rest behind j).mp hstands with ⟨hnil, heq⟩ | ⟨d, rfl, _⟩
    · exact .inl ⟨hnil, heq.symm⟩
    · exact .inr ⟨d, by rw [List.append_assoc]⟩
  have hfirst : before <+: text := (List.prefix_append before _).trans h.isPrefix
  have hfirst' : before' <+: text := (List.prefix_append before' _).trans h'.isPrefix
  rcases List.prefix_or_prefix_of_prefix hfirst hfirst' with ⟨d, rfl⟩ | ⟨d, rfl⟩
  · rcases hlater h h' with ⟨rfl, rfl⟩ | hinit
    · exact .inl ⟨(List.append_nil before).symm, rfl⟩
    · exact .inr (.inl hinit)
  · rcases hlater h' h with ⟨rfl, rfl⟩ | hinit
    · exact .inl ⟨List.append_nil before', rfl⟩
    · exact .inr (.inr hinit)

/-! ### The parts of a text -/

/-- The reader divides a text into the parts that it has. -/
theorem divides_ofText (text : List Char) : Divides (ofText text) text := by
  induction text using ofText.induct with
  | case1 =>
      rw [ofText]
      exact ⟨rfl, fun before inner =>
        ⟨fun h => absurd h List.not_mem_nil, fun h => absurd h (not_standsIn_nil before inner)⟩⟩
  | case2 c tail inner rest hread _ ih =>
      rcases (placeholder?_eq_some_iff _ _ _).mp hread with ⟨hinner, htext⟩
      have hparts : ofText (c :: tail) = .placeholder inner :: ofText rest := by
        rw [ofText]
        split
        case h_1 inner' rest' hread' =>
          rw [hread, Option.some.injEq, Prod.mk.injEq] at hread'
          rw [hread'.1, hread'.2]
        case h_2 hread' => exact absurd (hread.symm.trans hread') (Option.some_ne_none _)
      rw [hparts, htext]
      refine ⟨by rw [List.flatMap_cons, ih.source], fun before other => ?_⟩
      rw [standsIn_source_append hinner, places, List.mem_cons, List.mem_map, Prod.mk.injEq]
      refine or_congr Iff.rfl ⟨?_, ?_⟩
      · rintro ⟨⟨behind, i⟩, hmem, heq⟩
        rcases Prod.mk.inj heq with ⟨rfl, rfl⟩
        exact ⟨behind, rfl, (ih.places _ _).mp hmem⟩
      · rintro ⟨behind, rfl, hstands⟩
        exact ⟨(behind, other), (ih.places _ _).mpr hstands, rfl⟩
  | case3 c tail hread ih =>
      have hparts : ofText (c :: tail) = .character c :: ofText tail := by
        rw [ofText]
        split
        case h_1 inner' rest' hread' =>
          exact absurd (hread.symm.trans hread') (Option.some_ne_none _).symm
        case h_2 => rfl
      rw [hparts]
      refine ⟨by rw [List.flatMap_cons, ih.source]; rfl, fun before other => ?_⟩
      rw [places, List.mem_map]
      constructor
      · rintro ⟨⟨behind, i⟩, hmem, heq⟩
        rcases Prod.mk.inj heq with ⟨rfl, rfl⟩
        exact (standsIn_cons_cons _ _ _ _ _).mpr ⟨rfl, (ih.places _ _).mp hmem⟩
      · intro hstands
        cases before with
        | nil =>
            -- The reader would have found it.
            rcases (standsIn_nil_iff _ _).mp hstands with ⟨rest, hfound⟩
            exact absurd (hread.symm.trans hfound) (Option.some_ne_none _).symm
        | cons d before =>
            rcases (standsIn_cons_cons _ _ _ _ _).mp hstands with ⟨rfl, hbehind⟩
            exact ⟨(before, other), (ih.places _ _).mpr hbehind, rfl⟩

end TemplatePart

namespace Workflow

open TemplatePart

/-- What a placeholder is written as, by its name: the value that is given for
    the name; or else the default of the first argument with that name; or else
    what it is. -/
inductive Fills (w : Workflow) (values : List (String × String)) (inner : List Char) :
    List Char → Prop where
  | value (s : String)
      (hgiven : Fields.get? values (String.ofList (Text.trim inner)) = some s) :
      Fills w values inner s.toList
  | default (before : List WorkflowArgument) (a : WorkflowArgument)
      (after : List WorkflowArgument) (s : String)
      (hgiven : Fields.get? values (String.ofList (Text.trim inner)) = none)
      (harguments : w.arguments = before ++ a :: after)
      (hfirst : ∀ b ∈ before, b.name ≠ String.ofList (Text.trim inner))
      (hname : a.name = String.ofList (Text.trim inner)) (hdefault : a.defaultValue = some s) :
      Fills w values inner s.toList
  | verbatim
      (hgiven : Fields.get? values (String.ofList (Text.trim inner)) = none)
      (hdefault : ∀ before a after, w.arguments = before ++ a :: after →
        (∀ b ∈ before, b.name ≠ String.ofList (Text.trim inner)) →
        a.name = String.ofList (Text.trim inner) → a.defaultValue = none) :
      Fills w values inner (placeholder inner).source

/-- The argument with a name is the first one that has it. -/
theorem argument?_eq_some_iff (w : Workflow) (name : String) (a : WorkflowArgument) :
    w.argument? name = some a ↔ a.name = name ∧
      ∃ before after, w.arguments = before ++ a :: after ∧ ∀ b ∈ before, b.name ≠ name := by
  unfold argument?
  rw [List.find?_eq_some_iff_append]
  simp only [beq_iff_eq, Bool.not_eq_eq_eq_not, Bool.not_true, beq_eq_false_iff_ne]

/-- A placeholder is rendered as what fills it. -/
theorem renderPart_fills (w : Workflow) (values : List (String × String)) (inner : List Char) :
    w.Fills values inner (w.renderPart values (.placeholder inner)) := by
  rw [renderPart, filling?]
  cases hgiven : Fields.get? values (String.ofList (Text.trim inner)) with
  | some s => exact .value s hgiven
  | none =>
      rw [Option.none_or]
      cases hargument : w.argument? (String.ofList (Text.trim inner)) with
      | none =>
          refine .verbatim hgiven fun before a after harguments hfirst hname => ?_
          have hsome := (argument?_eq_some_iff w _ a).mpr ⟨hname, before, after, harguments, hfirst⟩
          rw [hargument] at hsome
          exact absurd hsome (by simp only [reduceCtorEq, not_false_eq_true])
      | some a =>
          rcases (argument?_eq_some_iff w _ a).mp hargument with
            ⟨hname, before, after, harguments, hfirst⟩
          rw [Option.bind_some]
          cases hdefault : a.defaultValue with
          | some s => exact .default before a after s hgiven harguments hfirst hname hdefault
          | none =>
              -- A later argument with the same name does not count.
              refine .verbatim hgiven fun before' b after' harguments' hfirst' hname' => ?_
              have hsome := (argument?_eq_some_iff w _ b).mpr
                ⟨hname', before', after', harguments', hfirst'⟩
              rw [hargument, Option.some.injEq] at hsome
              rw [← hsome]
              exact hdefault

/-- Without a value and without defaults a placeholder stays as it is. -/
theorem eq_source_of_fills {w : Workflow} {inner cs : List Char}
    (hdefaults : ∀ a ∈ w.arguments, a.defaultValue = none) (h : w.Fills [] inner cs) :
    cs = (placeholder inner).source := by
  cases h with
  | value s hgiven => exact absurd hgiven (by simp [Fields.get?])
  | default before a after s _ harguments _ _ hdefault =>
      have hmem : a ∈ w.arguments := by
        rw [harguments]
        exact List.mem_append_right _ List.mem_cons_self
      have hnone := hdefaults a hmem
      exact absurd (hnone.symm.trans hdefault) (by simp only [reduceCtorEq, not_false_eq_true])
  | verbatim _ _ => rfl

/-- The placeholders of a command do not overlap, and what is rendered is the
    command with all of them written as what fills them and every other
    character as it is. Without values and defaults that is the command. -/
theorem render_replaces (w : Workflow) :
    (∀ before inner before' inner', StandsIn w.command.toList before inner →
      StandsIn w.command.toList before' inner' →
      (before = before' ∧ inner = inner') ∨
        before ++ (placeholder inner).source <+: before' ∨
        before' ++ (placeholder inner').source <+: before) ∧
    (∃ parts, Divides parts w.command.toList ∧
      ∀ values, ∃ f, (∀ inner, w.Fills values inner (f inner)) ∧
        (w.render values).toList = parts.flatMap (written f)) ∧
    ((∀ a ∈ w.arguments, a.defaultValue = none) → w.render [] = w.command) := by
  have hrender : ∀ values, (w.render values).toList = (TemplatePart.ofText w.command.toList).flatMap
      (written fun inner => w.renderPart values (.placeholder inner)) := by
    intro values
    rw [render, String.toList_ofList]
    congr 1
    funext p
    cases p <;> rfl
  refine ⟨fun _ _ _ _ => standsIn_apart _, ⟨_, divides_ofText _, fun values =>
    ⟨_, renderPart_fills w values, hrender values⟩⟩, fun hdefaults => ?_⟩
  -- Each part is written as the template has it.
  have hsource : (written fun inner => w.renderPart [] (.placeholder inner)) = source := by
    funext p
    cases p with
    | character c => rfl
    | placeholder inner => exact eq_source_of_fills hdefaults (renderPart_fills w [] inner)
  rw [← String.toList_inj, hrender, hsource, (divides_ofText _).source]

-- Of the three braces on each side the inner two count, and what is written is left alone.
example : render
    { name := "nested", command := "\x7b\x7b\x7b a \x7d\x7d\x7d \x7b\x7bb\x7d\x7d",
      arguments := [⟨"b", none, none⟩, ⟨"b", none, some "B"⟩] }
    [("a", "\x7b\x7bb\x7d\x7d")] =
      "\x7b\x7b\x7bb\x7d\x7d\x7d \x7b\x7bb\x7d\x7d" := by decide +kernel

end Workflow

end SimTerm
