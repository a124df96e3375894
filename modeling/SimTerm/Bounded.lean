/-!
# Bounded Sequences

Sequences that keep their last items up to a cap. A cap is a positive whole number that fits
the machine's index type.

## Main definitions

* `keepLast`: The last items of a list.
* `CapFault`: Why a number is no cap.
* `checkCap`: The cap that a number gives.
-/

namespace SimTerm

/-- The last `n` items of a list. -/
def keepLast {α : Type} (n : Nat) (xs : List α) : List α := xs.drop (xs.length - n)

theorem keepLast_nil {α : Type} (n : Nat) : keepLast n ([] : List α) = [] := List.drop_nil

theorem keepLast_zero {α : Type} (xs : List α) : keepLast 0 xs = [] := List.drop_length

theorem keepLast_of_length_le {α : Type} (n : Nat) (xs : List α) (h : xs.length ≤ n) :
    keepLast n xs = xs := by
  rw [keepLast, Nat.sub_eq_zero_of_le h, List.drop_zero]

/-- No more can be kept than there are. -/
theorem keepLast_min {α : Type} (n : Nat) (xs : List α) :
    keepLast (min n xs.length) xs = keepLast n xs := by
  rw [keepLast, keepLast]
  congr 1
  omega

/-- Items that were dropped before more came would have been dropped after it, too. -/
theorem keepLast_keepLast_append {α : Type} (n : Nat) (xs ys : List α) :
    keepLast n (keepLast n xs ++ ys) = keepLast n (xs ++ ys) := by
  have hdropped : xs.length - n ≤ xs.length := Nat.sub_le _ _
  rw [keepLast, keepLast, keepLast, ← List.drop_append_of_le_length hdropped, List.drop_drop,
    List.length_drop, List.length_append]
  congr 1
  omega

theorem length_keepLast_le {α : Type} (n : Nat) (xs : List α) : (keepLast n xs).length ≤ n := by
  rw [keepLast, List.length_drop]
  omega

/-- Where there is room for one item, the last one stays. -/
theorem getLast?_keepLast {α : Type} (n : Nat) (hn : 1 ≤ n) (xs : List α) :
    (keepLast n xs).getLast? = xs.getLast? := by
  rw [keepLast, List.getLast?_drop]
  split
  case isTrue hshort =>
    -- All items are dropped only if there are none.
    have hnil : xs = [] := List.length_eq_zero_iff.mp (by omega)
    rw [hnil, List.getLast?_nil]
  case isFalse => rfl

/-- Why a number is no cap. -/
inductive CapFault where
  /-- The number is zero or negative. -/
  | notPositive
  /-- The number does not fit the machine's index type. -/
  | tooLarge
deriving Repr, DecidableEq

/-- The largest index of the machine. -/
def maxIndex : Nat := 9223372036854775807

/-- The cap that a number gives. -/
def checkCap (n : Int) : Except CapFault Nat :=
  if n ≤ 0 then .error .notPositive
  else if (maxIndex : Int) < n then .error .tooLarge
  else .ok n.toNat

end SimTerm
