import Mathlib.Algebra.Order.Ring.Int
import SimTerm.Json

/-!
# Values That Can Be Written

Which values have a text.

Two things keep a value from being written: a whole number with too many digits,
wherever it stands, and too many levels, one inside the other. Nothing else does
(`exists_literalIn_iff`), so that a value that has no text can be told by looking
at it (`IsWritable`). A text as a whole is shown as it is, however long it is.

## Main definitions

* `Json.levels`: How many levels a value has.
* `Json.integers`: The whole numbers in a value.
* `Json.IsWritable`: A value has few enough levels and digits.

## Theorems

* `Text.writeInteger?_eq`: Which numbers are written.
* `Json.exists_literalIn_iff`: Which values are written with some room.
* `Json.exists_literal_iff`, `Json.exists_display_iff`: Which values are written.
-/

namespace SimTerm

namespace Text

/-- A number is written if it has no more digits than there may be. -/
theorem writeInteger?_eq (n : Int) :
    writeInteger? n = if n.natAbs < 10 ^ maxDigits then some (toString n) else none := by
  have hdigits : (Nat.toDigits 10 n.natAbs).length ≤ maxDigits ↔ n.natAbs < 10 ^ maxDigits :=
    Nat.length_toDigits_le_iff (by decide) (by decide)
  rw [writeInteger?]
  by_cases h : n.natAbs < 10 ^ maxDigits
  · rw [if_pos h, if_pos (hdigits.mpr h)]
  · rw [if_neg h, if_neg (fun hlength => h (hdigits.mp hlength))]

end Text

/-- A result with a function applied to it is there if the result is. -/
theorem Except.exists_map_eq_ok_iff {ε α β : Type} (r : Except ε α) (f : α → β) :
    (∃ b, r.map f = .ok b) ↔ ∃ a, r = .ok a := by
  cases r with
  | error e => simp only [Except.map, reduceCtorEq, exists_false]
  | ok a => exact ⟨fun _ => ⟨a, rfl⟩, fun _ => ⟨f a, rfl⟩⟩

theorem Except.map_eq_ok {ε α β : Type} (r : Except ε α) (f : α → β) (b : β)
    (h : r.map f = .ok b) : ∃ a, f a = b := by
  cases r with
  | error e => exact absurd h (by simp only [Except.map, reduceCtorEq, not_false_eq_true])
  | ok a => exact ⟨a, Except.ok.inj h⟩

/-- Two steps in a row that go through are one that does and then another. -/
theorem Except.bind_eq_ok {ε α β : Type} (r : Except ε α) (k : α → Except ε β) (b : β)
    (h : r.bind k = .ok b) : ∃ a, r = .ok a ∧ k a = .ok b := by
  cases r with
  | error e => exact absurd h (by simp only [Except.bind, reduceCtorEq, not_false_eq_true])
  | ok a => exact ⟨a, rfl, h⟩

/-- A result with a function applied to it fails as the result does. -/
theorem Except.map_eq_error_iff {ε α β : Type} (r : Except ε α) (f : α → β) (e : ε) :
    r.map f = .error e ↔ r = .error e := by
  cases r with
  | error e' => simp only [Except.map, Except.error.injEq]
  | ok a => simp only [Except.map, reduceCtorEq]

/-- Two steps in a row fail as the first one does or as the second one does. -/
theorem Except.bind_eq_error {ε α β : Type} (r : Except ε α) (k : α → Except ε β) (e : ε)
    (h : r.bind k = .error e) : r = .error e ∨ ∃ a, k a = .error e := by
  cases r with
  | error e' => exact .inl (congrArg Except.error (Except.error.inj h))
  | ok a => exact .inr ⟨a, h⟩

namespace Json

mutual

/-- How many levels a value has, itself the first one. -/
def levels : Json → Nat
  | .arr items => levelsOfItems items + 1
  | .obj fields => levelsOfFields fields + 1
  | _ => 1

/-- How many levels some values have at most. -/
def levelsOfItems : List Json → Nat
  | [] => 0
  | v :: vs => max (levels v) (levelsOfItems vs)

/-- How many levels some named values have at most. -/
def levelsOfFields : List (String × Json) → Nat
  | [] => 0
  | (_, v) :: vs => max (levels v) (levelsOfFields vs)

end

mutual

/-- The whole numbers in a value. -/
def integers : Json → List Int
  | .int n => [n]
  | .arr items => integersOfItems items
  | .obj fields => integersOfFields fields
  | _ => []

/-- The whole numbers in some values. -/
def integersOfItems : List Json → List Int
  | [] => []
  | v :: vs => integers v ++ integersOfItems vs

/-- The whole numbers in some named values. -/
def integersOfFields : List (String × Json) → List Int
  | [] => []
  | (_, v) :: vs => integers v ++ integersOfFields vs

end

/-- Some whole numbers have no more digits than are written. -/
def AreShort (ns : List Int) : Prop := ∀ n ∈ ns, n.natAbs < 10 ^ Text.maxDigits

theorem areShort_append (ms ns : List Int) : AreShort (ms ++ ns) ↔ AreShort ms ∧ AreShort ns :=
  List.forall_mem_append

theorem areShort_nil : AreShort [] := List.forall_mem_nil _

/-- A value has no more levels, and its whole numbers no more digits, than are
    written. -/
def IsWritable (v : Json) : Prop := v.levels ≤ maxLevels ∧ AreShort v.integers

/-- What is written one after the other is written if each part is. -/
theorem exists_written_cons_iff (first : Except Unwritable String)
    (rest : Except Unwritable (List String)) (join : String → List String → List String)
    {P Q : Prop} (hfirst : (∃ text, first = .ok text) ↔ P)
    (hrest : (∃ texts, rest = .ok texts) ↔ Q) :
    (∃ texts, (first.bind fun l => rest.map (join l)) = .ok texts) ↔ P ∧ Q := by
  cases first with
  | error u =>
      refine iff_of_false (by simp only [Except.bind, reduceCtorEq, exists_false,
        not_false_eq_true]) fun h => ?_
      rcases hfirst.mpr h.1 with ⟨text, htext⟩
      exact absurd htext (by simp only [reduceCtorEq, not_false_eq_true])
  | ok text =>
      rw [Except.bind, Except.exists_map_eq_ok_iff, hrest]
      exact ⟨fun h => ⟨hfirst.mp ⟨text, rfl⟩, h⟩, fun h => h.2⟩

/-- A whole number is written with all its digits or not at all. -/
theorem literalIn_int (n : Int) (room : Nat) : (Json.int n).literalIn (room + 1) =
    if n.natAbs < 10 ^ Text.maxDigits then .ok (toString n) else .error .tooManyDigits := by
  rw [literalIn, Text.writeInteger?_eq]
  split_ifs <;> rfl

theorem literal_int (n : Int) : (Json.int n).literal =
    if n.natAbs < 10 ^ Text.maxDigits then .ok (toString n) else .error .tooManyDigits :=
  literalIn_int n (maxLevels - 1)

mutual

/-- Where there is room for its levels, a value is written unless a number in it is
    too long. -/
theorem exists_literalIn_iff (v : Json) (room : Nat) :
    (∃ text, v.literalIn room = .ok text) ↔ v.levels ≤ room ∧ AreShort v.integers := by
  cases room with
  | zero =>
      have hlevels : ¬ v.levels ≤ 0 := by cases v <;> simp [levels]
      have hroom : v.literalIn 0 = .error .tooDeep := by cases v <;> rfl
      rw [hroom]
      exact iff_of_false (by simp only [reduceCtorEq, exists_false, not_false_eq_true])
        (fun h => hlevels h.1)
  | succ room =>
      cases v with
      | int n =>
          simp only [literalIn_int, levels, integers, AreShort, List.forall_mem_singleton]
          by_cases hn : n.natAbs < 10 ^ Text.maxDigits
          · simp [hn]
          · simp [hn]
      | arr items =>
          rw [literalIn, Except.exists_map_eq_ok_iff, exists_literalsIn_iff items room, levels,
            integers, Nat.add_le_add_iff_right]
      | obj fields =>
          rw [literalIn, Except.exists_map_eq_ok_iff, exists_fieldLiteralsIn_iff fields room,
            levels, integers, Nat.add_le_add_iff_right]
      | _ => simp [literalIn, levels, integers, areShort_nil]

theorem exists_literalsIn_iff (items : List Json) (room : Nat) :
    (∃ texts, literalsIn items room = .ok texts) ↔
      levelsOfItems items ≤ room ∧ AreShort (integersOfItems items) := by
  cases items with
  | nil => simp [literalsIn, levelsOfItems, integersOfItems, areShort_nil]
  | cons v vs =>
      rw [literalsIn, levelsOfItems, integersOfItems, areShort_append, Nat.max_le,
        and_and_and_comm]
      exact exists_written_cons_iff _ _ _ (exists_literalIn_iff v room)
        (exists_literalsIn_iff vs room)

theorem exists_fieldLiteralsIn_iff (fields : List (String × Json)) (room : Nat) :
    (∃ texts, fieldLiteralsIn fields room = .ok texts) ↔
      levelsOfFields fields ≤ room ∧ AreShort (integersOfFields fields) := by
  rcases fields with _ | ⟨⟨name, v⟩, vs⟩
  · simp [fieldLiteralsIn, levelsOfFields, integersOfFields, areShort_nil]
  · rw [fieldLiteralsIn, levelsOfFields, integersOfFields, areShort_append, Nat.max_le,
      and_and_and_comm]
    exact exists_written_cons_iff _ _ _ (exists_literalIn_iff v room)
      (exists_fieldLiteralsIn_iff vs room)

end

theorem exists_literal_iff (v : Json) : (∃ text, v.literal = .ok text) ↔ v.IsWritable :=
  exists_literalIn_iff v maxLevels

theorem isWritable_str (s : String) : (Json.str s).IsWritable :=
  ⟨by simp [levels, maxLevels], areShort_nil⟩

/-- A value is shown if it can be written. A text is shown as it is. -/
theorem exists_display_iff (v : Json) : (∃ text, v.display = .ok text) ↔ v.IsWritable := by
  cases v with
  | str s => exact iff_of_true ⟨s, rfl⟩ (isWritable_str s)
  | _ => exact exists_literal_iff _

end Json

end SimTerm
