import SimTerm.Proofs.Writing
import SimTerm.Yaml.Value

/-!
# Kinds of Values

Scalars, collections, and the text that a value stands for.

A field of a record takes a value that is neither a list nor a mapping, and
that is not the same as a scalar: a set is neither. Both classes are named here
(`Value.IsFlat`, `Value.IsScalar`), and they differ by the sets alone
(`isFlat_iff`). In a value that is built of mappings, sequences and scalars
there is no set, so there they are the same (`IsPlain.isScalar_iff`).

What a value stands for as a text is its `wording`. It has all digits of a
whole number, however many these are, whereas no number with more than the most
digits that there may be is shown. For scalars that is the only difference
(`isShown_iff`), since they have one level only.

## Main definitions

* `Value.IsScalar`: No collection.
* `Value.IsFlat`: No list and no mapping.
* `Value.IsPlain`: Built of mappings, sequences and scalars.
* `Value.IsShown`: A value can be shown.
* `Value.wording`: The text that a value stands for.

## Theorems

* `IsPlain.isScalar_iff`: Where there are no sets the two classes are one.
* `wording_of_display`: What is shown is the wording.
* `isShown_iff`: Which scalars are shown.
-/

namespace SimTerm

namespace Yaml

namespace Value

/-- A value that is no collection. -/
def IsScalar (v : Value) : Prop := v.shape? = none

/-- A value that is neither a list nor a mapping. -/
def IsFlat (v : Value) : Prop := v.isListOrMapping = false

/-- A value is built of mappings, sequences and scalars. A collection inside
    itself that is not opened up counts as the mapping or sequence that it is. -/
inductive IsPlain : Value → Prop where
  | scalar (v : Value) (h : v.IsScalar) : IsPlain v
  | sequence (node : Nat) (items : List Value) (h : ∀ v ∈ items, IsPlain v) :
      IsPlain (.sequence node items)
  | mapping (node : Nat) (entries : List (Value × Value)) (h : ∀ e ∈ entries, IsPlain e.2) :
      IsPlain (.mapping node entries)
  | closed (node : Nat) (shape : Shape) (h : shape ≠ .set) : IsPlain (.closed node shape)

mutual

/-- Whether a value is built of mappings, sequences and scalars. -/
def isPlain : Value → Bool
  | .sequence _ items => areAllPlain items
  | .mapping _ entries => areEntriesPlain entries
  | .closed _ shape => shape != .set
  | .pairs .. => false
  | .set _ => false
  | _ => true

/-- Whether all of some values are. -/
def areAllPlain : List Value → Bool
  | [] => true
  | v :: vs => v.isPlain && areAllPlain vs

/-- Whether the values of some entries are. -/
def areEntriesPlain : List (Value × Value) → Bool
  | [] => true
  | (_, v) :: rest => v.isPlain && areEntriesPlain rest

end

mutual

theorem IsPlain.of_isPlain : ∀ (v : Value), v.isPlain = true → v.IsPlain
  | .sequence node items, h => .sequence node items (of_areAllPlain items h)
  | .mapping node entries, h => .mapping node entries (of_areEntriesPlain entries h)
  | .closed node shape, h => .closed node shape (bne_iff_ne.mp h)
  | .null, _ | .bool _, _ | .int _, _ | .float _, _ | .noNumber _, _ | .text _, _
  | .binary _, _ | .date .., _ | .time _, _ => .scalar _ rfl

theorem IsPlain.of_areAllPlain : ∀ (vs : List Value), areAllPlain vs = true → ∀ v ∈ vs, v.IsPlain
  | [], _ => List.forall_mem_nil _
  | v :: vs, h =>
      have hboth := (Bool.and_eq_true _ _).mp h
      List.forall_mem_cons.mpr
        ⟨IsPlain.of_isPlain v hboth.1, IsPlain.of_areAllPlain vs hboth.2⟩

theorem IsPlain.of_areEntriesPlain : ∀ (entries : List (Value × Value)),
    areEntriesPlain entries = true → ∀ e ∈ entries, e.2.IsPlain
  | [], _ => List.forall_mem_nil _
  | (_, v) :: rest, h =>
      have hboth := (Bool.and_eq_true _ _).mp h
      List.forall_mem_cons.mpr
        ⟨IsPlain.of_isPlain v hboth.1, IsPlain.of_areEntriesPlain rest hboth.2⟩

end

/-- A value can be shown by itself. -/
def IsShown (v : Value) : Prop := ∃ text, v.display = .ok text

/-- The text that a value stands for, with all digits of a whole number. A set
    has none if a number in it is too long to be shown. -/
def wording : Value → String
  | .int n => toString n
  | v => v.display.toOption.getD ""

/-- Besides scalars the flat values are the sets. -/
theorem isFlat_iff (v : Value) : v.IsFlat ↔ v.IsScalar ∨ v.shape? = some .set := by
  unfold IsFlat isListOrMapping IsScalar
  rcases v.shape? with _ | shape
  · decide
  · cases shape <;> decide

theorem IsScalar.not_set {v : Value} (h : v.IsScalar) : v.shape? ≠ some .set := fun hset =>
  absurd (h.symm.trans hset) (Option.some_ne_none _).symm

theorem IsScalar.isFlat {v : Value} (h : v.IsScalar) : v.IsFlat := (isFlat_iff v).mpr (.inl h)

theorem IsPlain.not_set {v : Value} (h : v.IsPlain) : v.shape? ≠ some .set := by
  cases h with
  | scalar _ h => exact h.not_set
  | sequence node items _ => exact fun hset => Shape.noConfusion (Option.some.inj hset)
  | mapping node entries _ => exact fun hset => Shape.noConfusion (Option.some.inj hset)
  | closed node shape h => exact fun hset => h (Option.some.inj hset)

/-- Where there are no sets the flat values are the scalars. -/
theorem IsPlain.isScalar_iff {v : Value} (h : v.IsPlain) : v.IsScalar ↔ v.IsFlat :=
  ⟨IsScalar.isFlat, fun hflat => ((isFlat_iff v).mp hflat).resolve_right h.not_set⟩

theorem IsPlain.of_mem_sequence {node : Nat} {items : List Value}
    (h : (Value.sequence node items).IsPlain) : ∀ v ∈ items, v.IsPlain := by
  cases h with
  | scalar _ h => exact absurd h (Option.some_ne_none _)
  | sequence _ _ h => exact h

theorem IsPlain.of_mem_mapping {node : Nat} {entries : List (Value × Value)}
    (h : (Value.mapping node entries).IsPlain) : ∀ e ∈ entries, e.2.IsPlain := by
  cases h with
  | scalar _ h => exact absurd h (Option.some_ne_none _)
  | mapping _ _ h => exact h

theorem IsPlain.not_pairs (node : Nat) (entries : List (Value × Value)) :
    ¬ (Value.pairs node entries).IsPlain := by
  intro h
  cases h with
  | scalar _ h => exact absurd h (Option.some_ne_none _)

/-- A whole number is shown with all its digits or not at all. -/
theorem display_int (n : Int) : (Value.int n).display =
    if n.natAbs < 10 ^ Text.maxDigits then .ok (toString n) else .error .tooManyDigits :=
  Json.literal_int n

/-- What is shown of a value is its wording. -/
theorem wording_of_display {v : Value} {s : String} (h : v.display = .ok s) : v.wording = s := by
  cases v with
  | int n =>
      rw [display_int] at h
      split at h
      · exact Except.ok.inj h
      · exact absurd h (by simp only [reduceCtorEq, not_false_eq_true])
  | _ =>
      rw [wording, h]
      · rfl
      · exact fun _ heq => Value.noConfusion heq

/-- All scalars are shown but whole numbers with too many digits. -/
theorem isShown_iff {v : Value} (h : v.IsScalar) :
    v.IsShown ↔ ∀ n, v = .int n → n.natAbs < 10 ^ Text.maxDigits := by
  cases v with
  | int n =>
      rw [IsShown, display_int]
      constructor
      · rintro ⟨text, htext⟩ m hm
        rw [← Value.int.inj hm]
        split at htext
        case isTrue hshort => exact hshort
        case isFalse => exact absurd htext (by simp only [reduceCtorEq, not_false_eq_true])
      · intro hshort
        rw [if_pos (hshort n rfl)]
        exact ⟨_, rfl⟩
  | sequence | pairs | mapping | set | closed => exact absurd h (Option.some_ne_none _)
  | _ => exact ⟨fun _ _ heq => Value.noConfusion heq, fun _ => ⟨_, rfl⟩⟩

end Value

end Yaml

end SimTerm
