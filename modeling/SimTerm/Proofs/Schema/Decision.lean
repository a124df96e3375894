import Mathlib.Data.List.Forall2
import SimTerm.Proofs.Path
import SimTerm.Proofs.Records
import SimTerm.Proofs.Yaml.Kinds

/-!
# Exact Readings of Fields

What the readers of fields give, exactly.

What a document has to say for a record to come of it is a relation between the
two, and for each reader there is such a relation between the entries of a
mapping and what it gives. `Decides` ties a reader to its relation. If it gives
something, that is the one thing in relation to the entries; if it refuses,
nothing is; and it breaks off only where something cannot be shown. This goes
through the steps of a reader one by one, so a reader of records is settled by
those of its fields.

The relations have a parameter, the class of values that may stand for a text.
The readers take every value that is neither a list nor a mapping (`IsFlat`),
and all of their laws are about that class. That the class of scalars would do
in most documents is seen later, on the relations alone.

## Main definitions

* `Decides`: A reader and what it should give.
* `TextIn`: A field holds a text, or nothing.
* `IsCommaList`: The texts between the commas of a text.
* `TextsOf`, `TextsIn`: A value or a field holds some texts.
* `IsMappingOf`: A value is a mapping with such entries.

## Theorems

* `Decides.bind`, `Decides.mapM`: Readers one after another.
* `Decides.settles`: What comes of a text by such a reader.
* `decides_scalar`, `decides_required`, `decides_texts`: The readers of fields.
* `decides_ofText`: A whole document.
* `shown_iff_short`: What cannot be shown where there are no sets.
-/

namespace SimTerm

namespace Schema

open Yaml (Value)

variable {α β : Type} {S T : Prop}

/-- A reader that gives something gives the one thing that `Q` holds of, and
    then all it needs can be shown (`S`). It refuses only if there is no such
    thing, and breaks off only if something cannot be shown. -/
def Decides (S : Prop) (r : Except Fault α) (Q : α → Prop) : Prop :=
  match r with
  | .ok a => S ∧ ∀ b, Q b ↔ b = a
  | .error (.refused _) => ∀ b, ¬ Q b
  | .error (.halted _) => ¬ S

namespace Decides

variable {r : Except Fault α} {Q R : α → Prop}

protected theorem ok {a : α} (hS : S) (ha : ∀ b, Q b ↔ b = a) : Decides S (.ok a) Q := ⟨hS, ha⟩

/-- A reader that only gives something. -/
protected theorem pure (a : α) : Decides True (.ok a : Except Fault α) (fun b => b = a) :=
  .ok trivial fun _ => Iff.rfl

protected theorem refused {reason : Reason} (h : ∀ b, ¬ Q b) :
    Decides S (.error (.refused reason) : Except Fault α) Q := h

protected theorem congr (h : Decides S r Q) (hS : S ↔ T) (hQ : ∀ a, Q a ↔ R a) :
    Decides T r R := by
  match r, h with
  | .ok a, h => exact ⟨hS.mp h.1, fun b => (hQ b).symm.trans (h.2 b)⟩
  | .error (.refused _), h => exact fun b hb => h b ((hQ b).mpr hb)
  | .error (.halted _), h => exact fun hT => h (hS.mpr hT)

/-- What a reader gives is the one thing that it should. -/
protected theorem given {a : α} (h : Decides S (.ok a) Q) : Q a := (h.2 a).mpr rfl

protected theorem bind {k : α → Except Fault β} {K : α → β → Prop} (h : Decides S r Q)
    (hk : ∀ a, Q a → Decides T (k a) (K a)) :
    Decides (S ∧ T) (r >>= k) (fun b => ∃ a, Q a ∧ K a b) := by
  match r, h with
  | .error (.refused _), h => exact fun b ⟨a, ha, _⟩ => h a ha
  | .error (.halted _), h => exact fun hST => h hST.1
  | .ok a, h =>
      -- What the second reader has to do with is what the first one gives.
      have hsame : ∀ b, (∃ a, Q a ∧ K a b) ↔ K a b := fun b =>
        ⟨fun ⟨a', ha', hb⟩ => (h.2 a').mp ha' ▸ hb, fun hb => ⟨a, h.given, hb⟩⟩
      have hrest := hk a h.given
      change Decides (S ∧ T) (k a) _
      generalize k a = r at hrest ⊢
      match r, hrest with
      | .ok b, hrest => exact ⟨⟨h.1, hrest.1⟩, fun c => (hsame c).trans (hrest.2 c)⟩
      | .error (.refused _), hrest => exact fun b hb => hrest b ((hsame b).mp hb)
      | .error (.halted _), hrest => exact fun hST => hrest hST.2

/-- Reading all of a list takes what it takes for each item. -/
protected theorem mapM {xs : List α} {f : α → Except Fault β} {S : α → Prop} {K : α → β → Prop}
    (h : ∀ x ∈ xs, Decides (S x) (f x) (K x)) :
    Decides (∀ x ∈ xs, S x) (xs.mapM f) (List.Forall₂ K xs) := by
  induction xs with
  | nil =>
      exact .ok (fun _ hx => absurd hx List.not_mem_nil) fun _ => List.forall₂_nil_left_iff
  | cons x rest ih =>
      rw [List.mapM_cons]
      have hrest := ih fun y hy => h y (List.mem_cons_of_mem x hy)
      have hboth := (h x List.mem_cons_self).bind fun y _ => hrest.bind fun ys _ =>
        .pure (y :: ys)
      refine hboth.congr ?_ fun zs => ?_
      · rw [List.forall_mem_cons, and_true]
      · rw [List.forall₂_cons_left_iff]
        constructor
        · rintro ⟨y, hy, ys, hys, rfl⟩
          exact ⟨y, ys, hy, hys, rfl⟩
        · rintro ⟨y, ys, hy, hys, rfl⟩
          exact ⟨y, hy, ys, hys, rfl⟩

/-- What is made of what a reader gives. -/
protected theorem map {f : α → β} {K : β → Prop} (h : Decides S r Q)
    (hK : ∀ b, K b ↔ ∃ a, Q a ∧ b = f a) : Decides S (r.map f) K := by
  match r, h with
  | .ok a, h =>
      refine ⟨h.1, fun b => (hK b).trans ⟨?_, fun hb => ⟨a, h.given, hb⟩⟩⟩
      rintro ⟨a', ha', rfl⟩
      rw [(h.2 a').mp ha']
  | .error (.refused _), h =>
      intro b hb
      rcases (hK b).mp hb with ⟨a, ha, _⟩
      exact h a ha
  | .error (.halted _), h => exact h

/-- What ends a reader ends the ones that begin with it. -/
protected theorem error {e : Fault} {K : β → Prop}
    (h : Decides S (.error e : Except Fault α) Q) (hT : T → S) (hK : ∀ b, K b → ∃ a, Q a) :
    Decides T (.error e : Except Fault β) K := by
  match e, h with
  | .refused _, h => exact fun b hb => (hK b hb).elim h
  | .halted _, h => exact fun ht => h (hT ht)

/-- What comes of a text by such a reader: a record that should come of it, or
    none and one report of the reason, or a broken off reading. -/
theorem settles (h : Decides S r Q) (report : String → Event) :
    (∀ a, accepted report r = .ok ⟨some a, []⟩ ↔ Q a ∧ S) ∧
      (S → (∀ a, ¬ Q a) → ∃ reason, accepted report r = .ok ⟨none, [report reason]⟩) ∧
      (¬ S → ∀ a, Q a → ∃ halt, accepted report r = .error halt) := by
  match r, h with
  | .ok a, h =>
      refine ⟨fun b => ?_, fun _ hno => absurd h.given (hno a), fun hS => absurd h.1 hS⟩
      rw [accepted, Except.ok.injEq, Traced.mk.injEq, Option.some.injEq, and_iff_left rfl, h.2,
        and_iff_left h.1, eq_comm]
  | .error (.refused reason), h =>
      refine ⟨fun b => ⟨fun heq => ?_, fun hb => absurd hb.1 (h b)⟩,
        fun _ _ => ⟨reason.message, rfl⟩, fun _ a ha => absurd ha (h a)⟩
      rw [accepted, Except.ok.injEq, Traced.mk.injEq] at heq
      exact absurd heq.1 (by simp only [reduceCtorEq, not_false_eq_true])
  | .error (.halted halt), h =>
      refine ⟨fun b => ⟨fun heq => ?_, fun hb => absurd hb.2 h⟩, fun hS => absurd hS h,
        fun _ _ _ => ⟨halt, rfl⟩⟩
      exact absurd heq (by simp only [accepted, reduceCtorEq, not_false_eq_true])

end Decides

/-! ### What fields hold -/

/-- A field holds the text of a value of the class `P`, or it is absent. -/
inductive TextIn (P : Value → Prop) (data : Entries) (key : String) : Option String → Prop where
  | absent (h : field? data key = none) : TextIn P data key none
  | present (v : Value) (h : field? data key = some v) (hv : P v) :
      TextIn P data key (some v.wording)

/-- Some texts are those between the commas of a text, without the blanks
    around them and without those that are blank. -/
def IsCommaList (s : String) (ts : List String) : Prop :=
  ∃ pieces : List String, (∀ piece ∈ pieces, ',' ∉ piece.toList) ∧
    String.intercalate "," pieces = s ∧ ts = (pieces.map trimmed).filter (· ≠ "")

/-- A value writes some texts: it is the text of a list with commas, or a list
    of values of the class `P`. A row of pairs is a list too. If it has any
    pairs it does only if `rows` is the case. -/
inductive TextsOf (P : Value → Prop) (rows : Prop) : Value → List String → Prop where
  | commas (s : String) (ts : List String) (hts : IsCommaList s ts) : TextsOf P rows (.text s) ts
  | items (node : Nat) (items : List Value) (hitems : ∀ v ∈ items, P v) :
      TextsOf P rows (.sequence node items) (items.map Value.wording)
  | row (node : Nat) (entries : List (Value × Value)) (ts : List String)
      (hrows : entries = [] ∨ rows) (hts : Value.pairTexts node entries = .ok ts) :
      TextsOf P rows (.pairs node entries) ts

/-- A field holds some texts, or it is absent and holds none. -/
inductive TextsIn (P : Value → Prop) (rows : Prop) (data : Entries) (key : String) :
    List String → Prop where
  | absent (h : field? data key = none) : TextsIn P rows data key []
  | present (v : Value) (ts : List String) (h : field? data key = some v)
      (hts : TextsOf P rows v ts) : TextsIn P rows data key ts

theorem TextIn.mono {P Q : Value → Prop} {data : Entries} {key : String} {o : Option String}
    (h : TextIn P data key o) (hP : ∀ v, field? data key = some v → P v → Q v) :
    TextIn Q data key o := by
  rcases h with hnone | ⟨v, hfield, hv⟩
  · exact .absent hnone
  · exact .present v hfield (hP v hfield hv)

/-- What a field holds that holds a text is of the class. -/
theorem TextIn.holds {P : Value → Prop} {data : Entries} {key : String} {o : Option String}
    {v : Value} (h : TextIn P data key o) (hv : field? data key = some v) : P v := by
  rcases h with hnone | ⟨w, hw, hP⟩
  · exact absurd (hv.symm.trans hnone) (Option.some_ne_none v)
  · exact Option.some.inj (hw.symm.trans hv) ▸ hP

theorem TextsIn.holds {P : Value → Prop} {rows : Prop} {data : Entries} {key : String}
    {ts : List String} {v : Value} (h : TextsIn P rows data key ts)
    (hv : field? data key = some v) : TextsOf P rows v ts := by
  rcases h with hnone | ⟨w, _, hw, hts⟩
  · exact absurd (hv.symm.trans hnone) (Option.some_ne_none v)
  · exact Option.some.inj (hw.symm.trans hv) ▸ hts

theorem TextsIn.mono {P Q : Value → Prop} {rows rows' : Prop} {data : Entries} {key : String}
    {ts : List String} (h : TextsIn P rows data key ts)
    (hP : ∀ node items, field? data key = some (.sequence node items) → ∀ v ∈ items, P v → Q v)
    (hrows : ∀ node entries, field? data key = some (.pairs node entries) → entries ≠ [] → rows →
      rows') : TextsIn Q rows' data key ts := by
  rcases h with hnone | ⟨v, _, hfield, hts⟩
  · exact .absent hnone
  · refine .present v ts hfield ?_
    cases hts with
    | commas s _ hts => exact .commas s ts hts
    | items node items hitems =>
        exact .items node items fun v hv => hP node items hfield v hv (hitems v hv)
    | row node entries _ hnever hts =>
        refine .row node entries ts ?_ hts
        by_cases hempty : entries = []
        · exact .inl hempty
        · exact .inr (hrows node entries hfield hempty (hnever.resolve_left hempty))

/-- What a field holds can be shown, if it is no list and no mapping. -/
def ShownIn (data : Entries) (key : String) : Prop :=
  ∀ v, field? data key = some v → v.IsFlat → v.IsShown

/-- What a list holds can be shown. -/
def ItemsShown : Value → Prop
  | .sequence _ items => ∀ v ∈ items, v.IsFlat → v.IsShown
  | .pairs node entries => ∃ ts, Value.pairTexts node entries = .ok ts
  | _ => True

/-- What the list in a field holds can be shown. -/
def ItemsShownIn (data : Entries) (key : String) : Prop :=
  ∀ v, field? data key = some v → ItemsShown v

/-! ### Readers of fields -/

theorem decides_shown (text : Except Unwritable α) :
    Decides (∃ a, text = .ok a) (shown text) (fun a => text = .ok a) := by
  cases text with
  | error u => exact fun ⟨_, h⟩ => absurd h (by simp only [reduceCtorEq, not_false_eq_true])
  | ok a => exact .ok ⟨a, rfl⟩ fun b => (Except.ok.injEq a b).to_iff.trans eq_comm

/-- A value is shown with its wording, or it cannot be shown. -/
theorem decides_wording (v : Value) :
    Decides v.IsShown (shown v.display) (fun s => s = v.wording) := by
  cases h : v.display with
  | error u =>
      rintro ⟨s, hs⟩
      exact absurd (h.symm.trans hs) (by simp only [reduceCtorEq, not_false_eq_true])
  | ok s => exact .ok ⟨s, h⟩ fun b => by rw [Value.wording_of_display h]

theorem decides_scalarText (key : String) (v : Value) :
    Decides (v.IsFlat → v.IsShown) (scalarText key v)
      (fun s => v.IsFlat ∧ s = v.wording) := by
  unfold scalarText
  split
  case isTrue hlist => exact .refused fun s hs => absurd (hs.1.symm.trans hlist) Bool.false_ne_true
  case isFalse hflat =>
    have hflat := Bool.eq_false_iff.mpr hflat
    exact (decides_wording v).congr ⟨fun h _ => h, fun h => h hflat⟩
      fun s => ⟨fun hs => ⟨hflat, hs⟩, fun hs => hs.2⟩

theorem textIn_of_absent {P : Value → Prop} {data : Entries} {key : String}
    (h : field? data key = none) (o : Option String) : TextIn P data key o ↔ o = none := by
  constructor
  · rintro (_ | ⟨v, hv, _⟩)
    · rfl
    · exact absurd (h.symm.trans hv) (Option.some_ne_none v).symm
  · rintro rfl
    exact .absent h

theorem textIn_of_present {P : Value → Prop} {data : Entries} {key : String} {v : Value}
    (h : field? data key = some v) (o : Option String) :
    TextIn P data key o ↔ P v ∧ o = some v.wording := by
  constructor
  · rintro (hnone | ⟨w, hw, hP⟩)
    · exact absurd (h.symm.trans hnone) (Option.some_ne_none v)
    · rw [h, Option.some.injEq] at hw
      exact ⟨hw ▸ hP, by rw [hw]⟩
  · rintro ⟨hP, rfl⟩
    exact .present v h hP

theorem shownIn_of_absent {data : Entries} {key : String} (h : field? data key = none) :
    ShownIn data key := fun v hv => absurd (h.symm.trans hv) (Option.some_ne_none v).symm

theorem shownIn_of_present {data : Entries} {key : String} {v : Value}
    (h : field? data key = some v) :
    ShownIn data key ↔ (v.IsFlat → v.IsShown) := by
  refine ⟨fun hshown => hshown v h, fun hv w hw => ?_⟩
  rw [h, Option.some.injEq] at hw
  exact hw ▸ hv

/-- The text in a field that may be absent. -/
theorem decides_scalar (data : Entries) (key : String) :
    Decides (ShownIn data key) (scalar data key) (TextIn Value.IsFlat data key) := by
  unfold scalar
  split
  case h_1 hfield => exact .ok (shownIn_of_absent hfield) (textIn_of_absent hfield)
  case h_2 v hfield =>
    have hread := (decides_scalarText key v).map (f := some) (K := TextIn Value.IsFlat data key)
      fun o => (textIn_of_present hfield o).trans
        ⟨fun h => ⟨_, ⟨h.1, rfl⟩, h.2⟩, fun ⟨_, ⟨hflat, hs⟩, ho⟩ => ⟨hflat, hs ▸ ho⟩⟩
    exact hread.congr (shownIn_of_present hfield).symm fun _ => Iff.rfl

/-- The text in a field that has to be there and must not be blank. -/
theorem decides_required (data : Entries) (key : String) :
    Decides (ShownIn data key) (required data key)
      (fun s => TextIn Value.IsFlat data key (some s) ∧ IsFilled s) := by
  unfold required
  split
  case h_1 hfield =>
    refine .refused fun s hs => ?_
    exact absurd ((textIn_of_absent hfield _).mp hs.1) (Option.some_ne_none s)
  case h_2 v hfield =>
    have hread := decides_scalarText key v
    have hshown := shownIn_of_present hfield
    have htext : ∀ s, TextIn Value.IsFlat data key (some s) ↔ v.IsFlat ∧ s = v.wording :=
      fun s => by rw [textIn_of_present hfield, Option.some.injEq]
    split
    case h_1 e he =>
      rw [he] at hread
      exact hread.error hshown.mp fun s hs => ⟨s, (htext s).mp hs.1⟩
    case h_2 s hs =>
      rw [hs] at hread
      -- There is no other text for the field, and it may be blank.
      have honly : ∀ t, TextIn Value.IsFlat data key (some t) ↔ t = s := fun t =>
        (htext t).trans (hread.2 t)
      split
      case isTrue hblank =>
        refine .refused fun t ht => ?_
        rw [(honly t).mp ht.1, IsFilled, hblank] at ht
        exact absurd ht.2 Bool.false_ne_true.symm
      case isFalse hfilled =>
        refine .ok (hshown.mpr hread.1) fun t => ⟨fun ht => (honly t).mp ht.1, ?_⟩
        rintro rfl
        exact ⟨(honly t).mpr rfl, Bool.eq_false_iff.mpr hfilled⟩

/-- A number with too many digits ends the reading of a field that has to be there. -/
theorem required_long {data : Entries} {key : String} {n : Int}
    (hfield : field? data key = some (.int n)) (hn : ¬ n.natAbs < 10 ^ Text.maxDigits) :
    required data key = .error (.halted (.conversion .badNumber)) := by
  have htext : (Value.int n).display = .error .tooManyDigits :=
    (Value.display_int n).trans (if_neg hn)
  have hflat : ¬ (Value.int n).isListOrMapping = true := Bool.false_ne_true
  have hread : scalarText key (.int n) = .error (.halted (.conversion .badNumber)) := by
    rw [scalarText, if_neg hflat, htext]
    rfl
  rw [required, hfield]
  dsimp only
  rw [hread]

/-- The texts that are left of some pieces between commas. -/
theorem commaTexts_eq (parts : List (List Char)) :
    (parts.map fun cs => String.ofList (Text.trim cs)).filter (· != "") =
      ((parts.map String.ofList).map trimmed).filter (· ≠ "") := by
  rw [List.map_map]
  congr 1
  · funext t
    simp only [bne, beq_eq_decide, decide_not, ne_eq]
  · exact List.map_congr_left fun cs _ => by
      rw [Function.comp_apply, trimmed, String.toList_ofList]

/-- The texts between the commas are found by cutting there. -/
theorem isCommaList_iff (s : String) (ts : List String) :
    IsCommaList s ts ↔ ts = commaTexts s := by
  constructor
  · rintro ⟨pieces, hcommas, rfl, rfl⟩
    -- No pieces at all give the same as one empty piece, which is dropped.
    rcases eq_or_ne pieces [] with rfl | hne
    · rfl
    · have hcut : (String.intercalate "," pieces).toList.splitOn ',' =
          pieces.map String.toList := by
        rw [String.toList_intercalate]
        refine List.splitOn_intercalate ',' (fun part hpart => ?_) (mt List.map_eq_nil_iff.mp hne)
        rcases List.mem_map.mp hpart with ⟨piece, hpiece, rfl⟩
        exact hcommas piece hpiece
      have hback : (pieces.map String.toList).map String.ofList = pieces := by
        simp only [List.map_map, Function.comp_def, String.ofList_toList, List.map_id']
      rw [commaTexts, hcut, commaTexts_eq, hback]
  · rintro rfl
    refine ⟨(s.toList.splitOn ',').map String.ofList, fun piece hpiece => ?_, ?_,
      commaTexts_eq _⟩
    · rcases List.mem_map.mp hpiece with ⟨part, hpart, rfl⟩
      rw [String.toList_ofList]
      exact Path.not_mem_of_mem_splitOn ',' s.toList part hpart
    · have hback : ((s.toList.splitOn ',').map String.ofList).map String.toList =
          s.toList.splitOn ',' := by
        simp only [List.map_map, Function.comp_def, String.toList_ofList, List.map_id']
      rw [← String.toList_inj, String.toList_intercalate, hback]
      exact List.intercalate_splitOn ','

/-- The texts that a value writes. -/
theorem decides_textsOf (key : String) (v : Value) :
    Decides (ItemsShown v) (textsOf key v) (TextsOf Value.IsFlat True v) := by
  cases v with
  | text s =>
      have htexts := isCommaList_iff s
      refine .ok trivial fun ts => ⟨?_, fun h => .commas s ts ((htexts ts).mpr h)⟩
      rintro (⟨_, _, hts⟩ | _ | _)
      exact (htexts ts).mp hts
  | sequence node items =>
      rw [textsOf]
      split
      case isTrue hlist =>
        rcases List.any_eq_true.mp hlist with ⟨v, hv, hvlist⟩
        refine .refused ?_
        rintro ts (_ | ⟨_, _, hflat⟩ | _)
        exact absurd (hvlist.symm.trans (hflat v hv)) Bool.false_ne_true.symm
      case isFalse hlist =>
        have hflat : ∀ v ∈ items, v.IsFlat := fun v hv =>
          Bool.eq_false_iff.mpr fun h => hlist (List.any_eq_true.mpr ⟨v, hv, h⟩)
        -- None of the items is a list or a mapping, so each of them is shown.
        have hall := Decides.mapM fun v (_ : v ∈ items) => decides_wording v
        refine hall.congr ⟨fun h v hv _ => h v hv, fun h v hv => h v hv (hflat v hv)⟩ fun ts => ?_
        have hflip : (fun (v : Value) (s : String) => s = v.wording) = fun v s => v.wording = s :=
          funext fun v => funext fun s => propext eq_comm
        rw [hflip, ← List.forall₂_map_left_iff, List.forall₂_eq_eq_eq]
        constructor
        · rintro rfl
          exact .items node items hflat
        · rintro (_ | _ | _)
          rfl
  | pairs node entries =>
      rw [textsOf]
      refine (decides_shown (Value.pairTexts node entries)).congr Iff.rfl fun ts =>
        ⟨.row node entries ts (.inr trivial), ?_⟩
      rintro (_ | _ | ⟨_, _, _, _, hts⟩)
      exact hts
  | _ =>
      refine .refused fun ts h => ?_
      nomatch h

/-- The texts in a field that may be absent. -/
theorem decides_texts (data : Entries) (key : String) :
    Decides (ItemsShownIn data key) (texts data key) (TextsIn Value.IsFlat True data key) := by
  unfold texts
  split
  case h_1 hfield =>
    refine .ok (fun v hv => absurd (hfield.symm.trans hv) (Option.some_ne_none v).symm) ?_
    rintro ts
    constructor
    · rintro (_ | ⟨v, _, hv, _⟩)
      · rfl
      · exact absurd (hfield.symm.trans hv) (Option.some_ne_none v).symm
    · rintro rfl
      exact .absent hfield
  case h_2 v hfield =>
    have honly : ∀ w, field? data key = some w → v = w := fun w hw =>
      Option.some.inj (hfield.symm.trans hw)
    refine (decides_textsOf key v).congr ⟨fun h w hw => honly w hw ▸ h, fun h => h v hfield⟩
      fun ts => ⟨.present v ts hfield, ?_⟩
    rintro (hnone | ⟨w, _, hw, hts⟩)
    · exact absurd (hfield.symm.trans hnone) (Option.some_ne_none v)
    · exact honly w hw ▸ hts

/-! ### Documents -/

theorem exists_of_lookup? {data : Entries} {key : String} {v : Value}
    (h : Value.lookup? data key = some v) : ∃ e ∈ data, e.2 = v := by
  rcases Option.map_eq_some_iff.mp h with ⟨e, he, hv⟩
  exact ⟨e, List.mem_of_find?_eq_some he, hv⟩

theorem exists_of_field? {data : Entries} {key : String} {v : Value}
    (h : field? data key = some v) : ∃ e ∈ data, e.2 = v := by
  unfold field? at h
  split at h
  · exact absurd h (by simp only [reduceCtorEq, not_false_eq_true])
  · exact exists_of_lookup? h

section

variable {data : Entries} {key : String} {v : Value}

theorem isPlain_of_lookup? (hdata : ∀ e ∈ data, e.2.IsPlain)
    (h : Value.lookup? data key = some v) : v.IsPlain := by
  rcases exists_of_lookup? h with ⟨e, he, rfl⟩
  exact hdata e he

theorem isPlain_of_field? (hdata : ∀ e ∈ data, e.2.IsPlain) (h : field? data key = some v) :
    v.IsPlain := by
  rcases exists_of_field? h with ⟨e, he, rfl⟩
  exact hdata e he

/-- In the fields of a plain document there are no rows of pairs. -/
theorem field?_ne_pairs (hdata : ∀ e ∈ data, e.2.IsPlain) (node : Nat)
    (entries : List (Value × Value)) : field? data key ≠ some (.pairs node entries) := fun h =>
  Value.IsPlain.not_pairs node entries (isPlain_of_field? hdata h)

end

/-- A value is a mapping with entries that `Q` holds of. -/
def IsMappingOf (v : Value) (Q : Entries → Prop) : Prop :=
  ∃ node data, v = .mapping node data ∧ Q data

theorem isMappingOf_mapping (node : Nat) (data : Entries) (Q : Entries → Prop) :
    IsMappingOf (.mapping node data) Q ↔ Q data :=
  ⟨fun ⟨_, _, heq, h⟩ => (Value.mapping.inj heq).2 ▸ h, fun h => ⟨node, data, rfl, h⟩⟩

theorem valueOf_bind {text : String} {v : Value} (hv : Value.ofText text.toList = .ok v)
    (f : Value → Except Fault α) : valueOf text >>= f = f v := by
  rw [valueOf, hv]
  rfl

/-- A text is tried out: what it says, and what is made of that. -/
theorem exists_value [DecidableEq α] (text : String) (p : Value → Bool)
    (f : Value → Except Fault α) (a : α)
    (h : (Value.ofText text.toList).toOption.any
      (fun v => p v && decide ((f v).toOption = some a)) = true) :
    ∃ v, Value.ofText text.toList = .ok v ∧ p v = true ∧ valueOf text >>= f = .ok a := by
  cases hv : Value.ofText text.toList with
  | error fault =>
      rw [hv] at h
      exact absurd h Bool.false_ne_true
  | ok v =>
      rw [hv, Except.toOption, Option.any_some, Bool.and_eq_true, decide_eq_true_iff] at h
      rcases h with ⟨hp, ha⟩
      refine ⟨v, rfl, hp, (valueOf_bind hv f).trans ?_⟩
      generalize f v = r at ha ⊢
      cases r with
      | ok b => exact congrArg Except.ok (Option.some.inj ha)
      | error _ => exact absurd ha (Option.some_ne_none a).symm

/-- What the entries of a document give is what the document gives. -/
theorem decides_ofText {text : String} {v : Value} (hv : Value.ofText text.toList = .ok v)
    {f : Entries → Except Fault α} {S : Entries → Prop} {Q : Entries → α → Prop}
    (h : ∀ data, Decides (S data) (f data) (Q data)) :
    Decides (∀ node data, v = .mapping node data → S data)
      (valueOf text >>= fun v => entriesOf v >>= f) (fun a => IsMappingOf v (Q · a)) := by
  rw [valueOf_bind hv]
  unfold entriesOf
  split
  case h_1 node data =>
    refine (h data).congr ⟨fun hS _ _ heq => (Value.mapping.inj heq).2 ▸ hS,
      fun hS => hS node data rfl⟩ fun a => ⟨fun ha => ⟨node, data, rfl, ha⟩, ?_⟩
    rintro ⟨_, _, heq, ha⟩
    exact (Value.mapping.inj heq).2 ▸ ha
  case h_2 hno =>
    refine .refused ?_
    rintro a ⟨node, data, rfl, _⟩
    exact hno node data rfl

/-- Where values are built of mappings, sequences and scalars, the one thing that
    cannot be shown is a whole number with too many digits. -/
theorem shown_iff_short {T : Value → Prop} (hplain : ∀ v, T v → v.IsPlain) :
    (∀ v, T v → v.IsFlat → v.IsShown) ↔
      ∀ n, T (.int n) → n.natAbs < 10 ^ Text.maxDigits := by
  constructor
  · intro h n hn
    have hint : (Value.int n).IsScalar := rfl
    exact (Value.isShown_iff hint).mp (h _ hn hint.isFlat) n rfl
  · intro h v hv hflat
    refine (Value.isShown_iff ((hplain v hv).isScalar_iff.mpr hflat)).mpr ?_
    rintro n rfl
    exact h n hv

end Schema

end SimTerm
