/-!
# Tables of Character Ranges

A class of characters is given by the list of its maximal ranges of code points.

## Main definitions

* `Ranges`: Inclusive ranges of code points.
* `Ranges.has`: Membership of a character in one of the ranges.
-/

namespace SimTerm

namespace Text

/-- Inclusive ranges of code points, in increasing order. -/
abbrev Ranges := List (Nat × Nat)

/-- Whether a character lies in one of the ranges. -/
def Ranges.has (table : Ranges) (c : Char) : Bool :=
  table.any (fun r => r.1 ≤ c.toNat && c.toNat ≤ r.2)

end Text

end SimTerm
