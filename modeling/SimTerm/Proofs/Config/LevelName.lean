import Mathlib.Data.List.Basic
import SimTerm.Config.Validation
import SimTerm.Proofs.Text.Lowercase
import SimTerm.Proofs.Writing
import SimTerm.Text.Uppercase

/-!
# Names of Levels

Which values name a level.

A level is looked for by the ASCII capitals of a text, with the dotless i for an
i. That is less than upper-casing does, but for the five names it makes no
difference. A character beyond ASCII that upper-casing brings into ASCII becomes
an S, or letters of which no two stand next to each other in a name. So a text
with such a character is upper-cased to no name, and it is not found as one
either (`upperChar_cases`).

A value that is no text is shown before it is upper-cased. What is shown then is
a word that names no level, or has a digit or a mark in it that stands in no
name.

## Main definitions

* `Level.IsForeign`: Some characters that stand in the name of no level.
* `Level.marks`: Marks that are shown of values that are no text.

## Theorems

* `Level.upperChar_cases`: What upper-casing does to a character.
* `Level.upper_eq_name_iff`: Upper-casing and the ASCII capitals give a name for
  the same texts.
* `Level.ofName?_eq_some_iff`: Which texts name a level.
* `upper_display_ne_name`: A value that is no text names none.
* `levelOf?_eq_some_iff`: Which values name one.
-/

namespace SimTerm

namespace Level

/-- Some characters that stand in the name of no level, one behind the other. -/
def IsForeign (cs : List Char) : Prop := ∀ l ∈ all, ¬ cs <:+: l.name.toList

instance (cs : List Char) : Decidable (IsForeign cs) :=
  inferInstanceAs (Decidable (∀ l ∈ all, _))

theorem mem_all (l : Level) : l ∈ all := by cases l <;> decide

theorem IsForeign.of_infix {cs ds : List Char} (h : IsForeign cs) (hcs : cs <:+: ds) :
    IsForeign ds :=
  fun l hl hds => h l hl (hcs.trans hds)

theorem IsForeign.of_mem {c : Char} {cs : List Char} (h : IsForeign [c]) (hc : c ∈ cs) :
    IsForeign cs := by
  rcases List.append_of_mem hc with ⟨before, behind, rfl⟩
  exact h.of_infix ⟨before, behind, by rw [List.append_assoc, List.singleton_append]⟩

/-- A foreign text is not the name of a level. -/
theorem IsForeign.ne {cs : List Char} (h : IsForeign cs) (l : Level) : cs ≠ l.name.toList :=
  fun heq => h l (mem_all l) (heq ▸ List.infix_refl _)

/-! ### Single characters -/

theorem ascii_of_mem_name (l : Level) (c : Char) (hc : c ∈ l.name.toList) :
    c ≠ '\x00' ∧ c.toNat < 128 := by
  have hall : ∀ l ∈ all, l.name.toList.all (fun c => c ≠ '\x00' ∧ c.toNat < 128) = true := by decide
  exact of_decide_eq_true (List.all_eq_true.mp (hall l (mem_all l)) c hc)

/-- A character beyond ASCII stands in no name. -/
theorem isForeign_ofNat (n : Nat) (hn : 128 ≤ n) : IsForeign [Char.ofNat n] := by
  intro l _ hpart
  rcases ascii_of_mem_name l _ (hpart.subset (List.mem_singleton_self _)) with ⟨hzero, hlow⟩
  -- A number that no character has gives the zero character.
  by_cases hvalid : n.isValidChar
  · rw [Char.ofNat, dif_pos hvalid] at hlow
    exact absurd hn (Nat.not_le.mpr hlow)
  · rw [Char.ofNat, dif_neg hvalid] at hzero
    exact hzero rfl

theorem isForeign_singleton (c : Char) (hc : 128 ≤ c.toNat) : IsForeign [c] := by
  rw [← Char.ofNat_toNat c]
  exact isForeign_ofNat c.toNat hc

/-- Several capitals of one character lead beyond ASCII, or they are letters that do
    not stand together. -/
theorem manyCapitals_image : ∀ m ∈ Text.manyCapitals, m.2.any (128 ≤ ·) = true ∨
    IsForeign (m.2.map Char.ofNat) := by decide +kernel

/-- Several capitals of one character stand in no name. -/
theorem isForeign_manyCapitals (m : Nat × List Nat) (hm : m ∈ Text.manyCapitals) :
    IsForeign (m.2.map Char.ofNat) := by
  rcases manyCapitals_image m hm with hhigh | hletters
  · rcases List.any_eq_true.mp hhigh with ⟨n, hn, hhigh⟩
    exact (isForeign_ofNat n (of_decide_eq_true hhigh)).of_mem (List.mem_map_of_mem hn)
  · exact hletters

/-- A run leads beyond ASCII, or it is the one of the dotless i or the one of the
    long s. -/
theorem capitalRuns_image : ∀ r ∈ Text.capitalRuns, 128 ≤ r.image r.first ∨
    r.first = r.last ∧ (r.first = 0x131 ∨ r.image r.first = 'S'.toNat) := by decide +kernel

/-- What upper-casing does to a character beyond ASCII. -/
theorem upperChar_eq (c : Char) (hascii : 128 ≤ c.toNat) :
    Text.upperChar c = match Text.manyCapitals.find? (fun m => m.1 == c.toNat) with
      | some m => m.2.map Char.ofNat
      | none => match Text.capitalRuns.find? (fun r => r.covers c.toNat) with
        | some r => [Char.ofNat (r.image c.toNat)]
        | none => [c] := by
  rw [Text.upperChar, if_neg (by omega)]
  rfl

theorem isForeign_upperChar (c : Char) (hascii : 128 ≤ c.toNat) (hdotless : c.toNat ≠ 0x131) :
    IsForeign (Text.upperChar c) := by
  rw [upperChar_eq c hascii]
  cases hmany : Text.manyCapitals.find? (fun m => m.1 == c.toNat) with
  | some m => exact isForeign_manyCapitals m (List.mem_of_find?_eq_some hmany)
  | none =>
      cases hrun : Text.capitalRuns.find? (fun r => r.covers c.toNat) with
      | none => exact isForeign_singleton c hascii
      | some r =>
          have hcovers := List.find?_some hrun
          rcases r.exists_of_covers c.toNat hcovers with ⟨hfirst, hlast, _⟩
          have hmono := r.image_mono hfirst
          dsimp only
          rcases capitalRuns_image r (List.mem_of_find?_eq_some hrun) with hhigh | ⟨hone, hcase⟩
          · exact isForeign_ofNat _ (Nat.le_trans hhigh hmono)
          · -- The run has one member.
            have hc : c.toNat = r.first := by omega
            rcases hcase with hdot | hlong
            · exact absurd (hc.trans hdot) hdotless
            · rw [hc, hlong, Char.ofNat_toNat]
              decide +kernel

/-- A character has one capital, which is the ASCII one, or no name has a place for
    what comes of it either way. -/
theorem upperChar_cases (c : Char) :
    Text.upperChar c = [capital c] ∨ IsForeign (Text.upperChar c) ∧ IsForeign [capital c] := by
  by_cases hascii : c.toNat < 128
  · left
    rw [Text.upperChar, if_pos hascii, capital, if_neg]
    rw [beq_iff_eq]
    omega
  by_cases hdotless : c.toNat = 0x131
  · left
    rw [← Char.ofNat_toNat c, hdotless]
    decide +kernel
  · right
    refine ⟨isForeign_upperChar c (by omega) hdotless, ?_⟩
    have hlarge : ¬ (c.val ≥ 'a'.val ∧ c.val ≤ 'z'.val) := by
      rintro ⟨_, hsmall⟩
      have hz : c.toNat ≤ 'z'.toNat := hsmall
      exact hascii (Nat.lt_of_le_of_lt hz (by decide))
    have hown : capital c = c := by
      rw [capital, if_neg (by rw [beq_iff_eq]; exact hdotless)]
      exact dif_neg hlarge
    rw [hown]
    exact isForeign_singleton c (by omega)

/-! ### Texts -/

/-- The ASCII capitals are a name exactly if upper-casing gives it. -/
theorem upper_eq_name_iff (cs : List Char) (l : Level) :
    Text.upper cs = l.name.toList ↔ cs.map capital = l.name.toList := by
  by_cases h : ∀ c ∈ cs, Text.upperChar c = [capital c]
  · have hsame : Text.upper cs = cs.map capital := by
      rw [Text.upper, List.flatMap_congr h]
      exact List.flatMap_pure_eq_map capital cs
    rw [hsame]
  · -- One character that becomes something else keeps both texts from being a name.
    rcases not_forall.mp h with ⟨c, hc⟩
    rcases Classical.not_imp.mp hc with ⟨hc, hne⟩
    rcases (upperChar_cases c).resolve_left hne with ⟨hupper, hcapital⟩
    refine iff_of_false (IsForeign.ne ?_ l) (IsForeign.ne ?_ l)
    · rcases List.append_of_mem hc with ⟨before, behind, rfl⟩
      refine hupper.of_infix ⟨Text.upper before, Text.upper behind, ?_⟩
      simp only [Text.upper, List.flatMap_append, List.flatMap_cons, List.append_assoc]
    · exact hcapital.of_mem (List.mem_map_of_mem hc)

/-- A text names a level exactly if it is the level's name in upper case. -/
theorem ofName?_eq_some_iff (s : String) (l : Level) :
    ofName? s = some l ↔ Text.upper s.toList = l.name.toList := by
  rw [upper_eq_name_iff, ofName?]
  constructor
  · intro h
    have hname := List.find?_some h
    rw [beq_iff_eq] at hname
    exact hname.symm
  · intro h
    rw [h]
    cases l <;> decide

/-! ### Values -/

/-- The marks that fractions, signs, lists and objects are shown with. -/
def marks : List Char := ['.', '+', '-', '[', '\x7b']

/-- A digit stands in no name, and neither does one of the marks. -/
theorem isForeign_mark (c : Char) (h : c.isDigit = true ∨ c ∈ marks) :
    IsForeign [capital c] := by
  rcases h with hdigit | hmark
  · have hdigits : ∀ n, n < 58 → 48 ≤ n → IsForeign [capital (Char.ofNat n)] := by decide +kernel
    rw [Char.isDigit, Bool.and_eq_true, decide_eq_true_eq, decide_eq_true_eq] at hdigit
    have hlow : 48 ≤ c.toNat := hdigit.1
    have hhigh : c.toNat ≤ 57 := hdigit.2
    rw [← Char.ofNat_toNat c]
    exact hdigits c.toNat (by omega) hlow
  · have hmarks : marks.all (fun c => IsForeign [capital c]) = true := by decide +kernel
    exact of_decide_eq_true (List.all_eq_true.mp hmarks c hmark)

/-- A text with one of these in it is upper-cased to no name. -/
theorem upper_ne_name (cs : List Char) (c : Char) (hc : c ∈ cs)
    (h : c.isDigit = true ∨ c ∈ marks) (l : Level) : Text.upper cs ≠ l.name.toList := by
  rw [Ne, upper_eq_name_iff]
  exact IsForeign.ne ((isForeign_mark c h).of_mem (List.mem_map_of_mem hc)) l

end Level

/-- A whole number is shown with a digit or more. -/
theorem exists_digit (n : Int) : ∃ c ∈ (toString n).toList, c.isDigit = true := by
  have hnat : ∀ k : Nat, ∃ c ∈ (Nat.repr k).toList, c.isDigit = true := by
    intro k
    rw [Nat.toList_repr]
    rcases List.exists_mem_of_ne_nil _ (Nat.toDigits_ne_nil (b := 10) (n := k)) with ⟨c, hc⟩
    exact ⟨c, hc, Nat.isDigit_of_mem_toDigits (by decide) (by decide) hc⟩
  rcases n with k | k
  · exact hnat k
  · rcases hnat (k + 1) with ⟨c, hc, hdigit⟩
    refine ⟨c, ?_, hdigit⟩
    rw [show toString (Int.negSucc k) = "-" ++ Nat.repr (k + 1) from rfl, String.toList_append]
    exact List.mem_append_right _ hc

namespace Double

theorem point_mem_positional (digits : List Char) (place : Int) :
    '.' ∈ positional digits place := by
  rw [positional]
  split
  · exact List.mem_append_left _ (List.mem_cons_of_mem _ List.mem_cons_self)
  · exact List.mem_append_right _ List.mem_cons_self

theorem sign_mem_scientific (digits : List Char) (place : Int) :
    (if place - 1 < 0 then '-' else '+') ∈ scientific digits place :=
  List.mem_append_right _ (List.mem_cons_of_mem _ List.mem_cons_self)

/-- A finite number is shown with a point or with the sign of its exponent. -/
theorem exists_mark (negative : Bool) (m : Nat) (e : Int) :
    ∃ c ∈ (finite negative m e).text.toList, c ∈ Level.marks := by
  rw [text]
  dsimp only
  by_cases hzero : (m == 0) = true
  · rw [if_pos hzero, String.toList_ofList]
    exact ⟨'.', List.mem_append_right _ (by decide), by decide⟩
  rw [if_neg hzero, String.toList_ofList]
  -- It does not matter which digits are shown.
  generalize Nat.toDigits 10 (shortest m e).1 = digits
  generalize (digits.length : Int) + (shortest m e).2 = place
  by_cases hshort : -4 < place ∧ place ≤ 16
  · rw [if_pos hshort]
    exact ⟨'.', List.mem_append_right _ (point_mem_positional digits place), by decide⟩
  · rw [if_neg hshort]
    refine ⟨_, List.mem_append_right _ (sign_mem_scientific digits place), ?_⟩
    split <;> decide

end Double

/-- What is shown of a value that is no text is upper-cased to no name. -/
theorem upper_display_ne_name (v : Json) (h : ∀ s, v ≠ .str s) (text : String)
    (htext : v.display = .ok text) (l : Level) : Text.upper text.toList ≠ l.name.toList := by
  have hbetween : ∀ (before middle behind : String) (c : Char), c ∈ before.toList →
      c ∈ (before ++ middle ++ behind).toList := fun before middle behind c hc => by
    rw [String.toList_append, String.toList_append]
    exact List.mem_append_left _ (List.mem_append_left _ hc)
  cases v with
  | null =>
      rw [← Except.ok.inj htext]
      cases l <;> decide +kernel
  | bool b =>
      rw [← Except.ok.inj htext]
      cases b <;> cases l <;> decide +kernel
  | int n =>
      rcases exists_digit n with ⟨c, hc, hdigit⟩
      have hint : (Json.int n).literal = .ok text := htext
      rw [Json.literal_int] at hint
      split_ifs at hint
      rw [← Except.ok.inj hint]
      exact l.upper_ne_name _ c hc (.inl hdigit)
  | float x =>
      rw [← Except.ok.inj htext]
      rcases x with ⟨negative, m, e⟩ | negative | _
      · rcases Double.exists_mark negative m e with ⟨c, hc, hmark⟩
        exact l.upper_ne_name _ c hc (.inr hmark)
      · cases negative <;> cases l <;> decide +kernel
      · cases l <;> decide +kernel
  | str s => exact absurd rfl (h s)
  | arr items =>
      rcases Except.map_eq_ok _ _ _ (show (Json.literalsIn items 989).map _ = .ok text from htext)
        with ⟨ls, rfl⟩
      exact l.upper_ne_name _ '[' (hbetween _ _ _ _ (by decide)) (.inr (by decide))
  | obj fields =>
      rcases Except.map_eq_ok _ _ _
        (show (Json.fieldLiteralsIn fields 989).map _ = .ok text from htext) with ⟨ls, rfl⟩
      exact l.upper_ne_name _ '\x7b' (hbetween _ _ _ _ (by decide)) (.inr (by decide))

/-- A value names a level exactly if it can be shown and what is shown is the
    level's name when it is upper-cased. -/
theorem levelOf?_eq_some_iff (v : Json) (l : Level) :
    levelOf? v = some l ↔
      ∃ text, v.display = .ok text ∧ Text.upper text.toList = l.name.toList := by
  by_cases h : ∃ s, v = .str s
  · rcases h with ⟨s, rfl⟩
    simp only [Json.display, Except.ok.injEq, exists_eq_left']
    exact Level.ofName?_eq_some_iff s l
  · have hother : ∀ s, v ≠ .str s := fun s hs => h ⟨s, hs⟩
    refine iff_of_false ?_ fun ⟨text, htext, hname⟩ =>
      upper_display_ne_name v hother text htext l hname
    cases v with
    | str s => exact absurd rfl (hother s)
    | _ => simp only [levelOf?, reduceCtorEq, not_false_eq_true]

example : levelOf? (.str "Crıtical") = some .critical := by decide

end SimTerm
