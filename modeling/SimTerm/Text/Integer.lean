import SimTerm.Text.Blank
import SimTerm.Text.Digit
/-!
# Integers as Text

Reading whole numbers in a base, and the limit on decimal digits: a decimal text with more
than `maxDigits` digits is neither read nor written. Leading zeros count.

## Main definitions

* `readDecimal?`: A run of decimal digits as a number, within the limit.
* `readInteger?`: A signed number in base 2, 8, 10 or 16, with blanks around it.
* `writeInteger?`: A number in decimal digits, within the limit.
-/

namespace SimTerm

namespace Text

/-- The most decimal digits that are converted to a number or written for one. -/
def maxDigits : Nat := 4300

/-- The number that a run of decimal digits writes, or nothing beyond the limit. -/
def readDecimal? (digits : List Char) : Option Nat :=
  if digits.length ≤ maxDigits then some (decimalValue digits) else none

/-- The value of a digit in a base of at most 36: a decimal digit of any script or a letter. -/
def baseDigit? (base : Nat) (c : Char) : Option Nat :=
  let value? :=
    match digitValue? c with
    | some d => some d
    | none =>
      if 'a' ≤ c ∧ c ≤ 'z' then some (c.toNat - 'a'.toNat + 10)
      else if 'A' ≤ c ∧ c ≤ 'Z' then some (c.toNat - 'A'.toNat + 10)
      else none
  value?.filter (· < base)

/-- The number that digits of a base write; nothing if one of them is no digit of it. -/
def foldDigits? (base : Nat) (cs : List Char) : Option Nat :=
  cs.foldlM (fun n c => (baseDigit? base c).map (base * n + ·)) 0

/-- The letter that may follow a zero in front of a number in a base. -/
def baseMark? (base : Nat) : Option Char :=
  if base == 2 then some 'b' else if base == 8 then some 'o'
  else if base == 16 then some 'x' else none

/-- A number without its base mark, if it has one. -/
def dropBaseMark (base : Nat) : List Char → List Char
  | '0' :: c :: rest => if baseMark? base == some c.toLower then rest else '0' :: c :: rest
  | cs => cs

/-- The magnitude of a number in a base: at least one digit, within the limit if decimal. -/
def readMagnitude? (base : Nat) (cs : List Char) : Option Nat :=
  let digits := dropBaseMark base cs
  if digits.isEmpty || (base == 10 && maxDigits < digits.length) then none
  else foldDigits? base digits

/-- A number in a base: blanks around it and one sign are allowed. -/
def readInteger? (base : Nat) (cs : List Char) : Option Int :=
  match trimNumber cs with
  | '-' :: rest => (readMagnitude? base rest).map (fun n => -(n : Int))
  | '+' :: rest => (readMagnitude? base rest).map (fun n => (n : Int))
  | rest => (readMagnitude? base rest).map (fun n => (n : Int))

/-- A number in decimal digits, or nothing beyond the limit. -/
def writeInteger? (n : Int) : Option String :=
  if (Nat.toDigits 10 n.natAbs).length ≤ maxDigits then some (toString n) else none

/-- Different numbers have different decimal digits. -/
theorem eq_of_toDigits_eq (m n : Nat) (h : Nat.toDigits 10 m = Nat.toDigits 10 n) : m = n := by
  rw [← @Nat.ofDigitChars_ten_toDigits m, h, Nat.ofDigitChars_ten_toDigits]

end Text

end SimTerm
