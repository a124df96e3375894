import SimTerm.Text.Blank
import SimTerm.Text.Digit
/-!
# Double-Precision Numbers

A double-precision number held exactly, as a sign, a whole number below 2^53 and a power of
two. All arithmetic is done on whole numbers and rounded once, to the nearest double, a half
going to the even neighbour.

## Main definitions

* `Double`: Finite numbers, the two infinities and the value that is no number.
* `Double.ofRatio`: The double nearest to a ratio.
* `Double.ofDecimal`: The double nearest to a decimal.
* `Double.shortest`: The decimal with the fewest digits that reads back.
* `Double.text`: How a double is written.
* `Double.read?`: The double that a text writes.
-/

namespace SimTerm

/-- A double-precision number. -/
inductive Double where
  /-- The number `mantissa * 2 ^ exponent`, negated if `negative`. -/
  | finite (negative : Bool) (mantissa : Nat) (exponent : Int)
  /-- Beyond the largest finite number. -/
  | infinite (negative : Bool)
  /-- No number. -/
  | nan
deriving DecidableEq, Repr

namespace Double

/-- The whole number nearest to a ratio, a half going to the even neighbour. -/
def roundRatio (num den : Nat) : Nat :=
  let q := num / den
  let r := num % den
  if 2 * r < den then q
  else if den < 2 * r then q + 1
  else if q % 2 == 0 then q else q + 1

/-- The number of binary digits of a whole number. -/
def bitLength (n : Nat) : Nat := if n == 0 then 0 else n.log2 + 1

/-- The ratio divided by a power of two, as a numerator and a denominator. -/
def scale (num den : Nat) (e : Int) : Nat × Nat :=
  if 0 ≤ e then (num, den <<< e.toNat) else (num <<< (-e).toNat, den)

/-- The double nearest to the ratio of two whole numbers, with a sign. -/
def ofRatio (negative : Bool) (num den : Nat) : Double :=
  if num == 0 then .finite negative 0 0
  else
    let e := (bitLength num : Int) - bitLength den - 53
    let s := scale num den e
    -- At this exponent the ratio lies between 2^52 and 2^54, so one step up is enough.
    let e := if s.2 <<< 53 ≤ s.1 then e + 1 else e
    let e := max e (-1074)
    let s := scale num den e
    let m := roundRatio s.1 s.2
    -- Rounding may have made one more digit.
    let (m, e) := if m == 1 <<< 53 then (1 <<< 52, e + 1) else (m, e)
    if 971 < e then .infinite negative else .finite negative m e

/-- A power of ten. -/
def tenTo (n : Nat) : Nat := Nat.pow 10 n

/-- The number of decimal digits of a whole number. -/
def decimalLength (n : Nat) : Nat := (Nat.toDigits 10 n).length

/-- The double nearest to `digits * 10 ^ exponent`, with a sign. -/
def ofDecimal (negative : Bool) (digits : Nat) (exponent : Int) : Double :=
  if digits == 0 then .finite negative 0 0
  else
    let size := (decimalLength digits : Int) + exponent
    -- Far out of range the powers of ten are not worked out.
    if 320 < size then .infinite negative
    else if size < -340 then .finite negative 0 0
    else if 0 ≤ exponent then ofRatio negative (digits * tenTo exponent.toNat) 1
    else ofRatio negative digits (tenTo (-exponent).toNat)

/-- The magnitude of a finite number as a ratio. -/
def magnitude (mantissa : Nat) (exponent : Int) : Nat × Nat :=
  if 0 ≤ exponent then (mantissa <<< exponent.toNat, 1) else (mantissa, 1 <<< (-exponent).toNat)

/-- The number with the other sign. -/
def neg : Double → Double
  | .finite n m e => .finite (!n) m e
  | .infinite n => .infinite (!n)
  | .nan => .nan

/-- The product with a whole number, which is rounded to a double first. -/
def mulNat (x : Double) (k : Nat) : Double :=
  match x, ofRatio false k 1 with
  | .nan, _ => .nan
  | .infinite n, _ => if k == 0 then .nan else .infinite n
  | .finite n m e, .finite _ m' e' =>
    let r := magnitude m e
    let r' := magnitude m' e'
    ofRatio n (r.1 * r'.1) (r.2 * r'.2)
  | .finite n m _, _ => if m == 0 then .nan else .infinite n

/-- A whole number with a sign bit. -/
def signed (negative : Bool) (n : Nat) : Int := if negative then -(n : Int) else n

/-- The double nearest to a sum; a sum of two negative zeros alone is a negative zero. -/
def add : Double → Double → Double
  | .nan, _ => .nan
  | _, .nan => .nan
  | .infinite a, .infinite b => if a == b then .infinite a else .nan
  | .infinite a, _ => .infinite a
  | _, .infinite b => .infinite b
  | .finite a m e, .finite b k f =>
    let x := magnitude m e
    let y := magnitude k f
    let sum := signed a (x.1 * y.2) + signed b (y.1 * x.2)
    if sum == 0 then .finite (a && b) 0 0
    else ofRatio (sum < 0) sum.natAbs (x.2 * y.2)

/-- The whole number that a double equals, if it is one. -/
def toInt? : Double → Option Int
  | .finite n m e =>
    let r := magnitude m e
    if r.1 % r.2 == 0 then some (signed n (r.1 / r.2)) else none
  | _ => none

/-- The place of the decimal point in front of which a positive ratio starts:
`10 ^ (k - 1) ≤ num / den < 10 ^ k`. -/
def decimalPlace (num den : Nat) : Int :=
  let k := (decimalLength num : Int) - decimalLength den
  let below (k : Int) : Bool :=
    if 0 ≤ k then num < den * tenTo k.toNat else num * tenTo (-k).toNat < den
  if below k then k else k + 1

/-- Drops the zeros at the end of a decimal, within a number of steps. -/
def dropZeros : Nat → Nat → Int → Nat × Int
  | 0, d, p => (d, p)
  | fuel + 1, d, p => if d != 0 && d % 10 == 0 then dropZeros fuel (d / 10) (p + 1) else (d, p)

/-- The nearer of the two decimals with a number of digits around a positive finite number
that reads back as the number. -/
def grid? (m : Nat) (e : Int) (place : Int) (count : Nat) : Option (Nat × Int) :=
  let r := magnitude m e
  let p := place - count
  let s : Nat × Nat :=
    if 0 ≤ p then (r.1, r.2 * tenTo p.toNat) else (r.1 * tenTo (-p).toNat, r.2)
  let low := s.1 / s.2
  let target := Double.finite false m e
  let hitsLow := low != 0 && ofDecimal false low p == target
  let hitsHigh := ofDecimal false (low + 1) p == target
  let rest := 2 * (s.1 % s.2)
  let lowFirst := rest < s.2 || (rest == s.2 && low % 2 == 0)
  if hitsLow && (lowFirst || !hitsHigh) then some (low, p)
  else if hitsHigh then some (low + 1, p)
  else none

/-- The decimal with the fewest digits that reads back as a positive finite number, and the
nearest of those. -/
def shortest (m : Nat) (e : Int) : Nat × Int :=
  let r := magnitude m e
  let place := decimalPlace r.1 r.2
  match (List.range 17).findSome? (fun k => grid? m e place (k + 1)) with
  | some (d, p) => dropZeros 400 d p
  | none => (0, 0)

/-- The digits of a decimal with its point after `place` digits, and at least one place. -/
def positional (digits : List Char) (place : Int) : List Char :=
  if place ≤ 0 then '0' :: '.' :: List.replicate (-place).toNat '0' ++ digits
  else
    let k := place.toNat
    let whole := digits.take k ++ List.replicate (k - digits.length) '0'
    let rest := digits.drop k
    whole ++ '.' :: (if rest.isEmpty then ['0'] else rest)

/-- A decimal with one digit in front of the point and an exponent of two digits or more. -/
def scientific (digits : List Char) (place : Int) : List Char :=
  let e := place - 1
  let exponent := (paddedExponent e.natAbs)
  digits.take 1 ++ (if 1 < digits.length then '.' :: digits.drop 1 else []) ++
    'e' :: (if e < 0 then '-' else '+') :: exponent
where
  /-- An exponent with at least two digits. -/
  paddedExponent (n : Nat) : List Char :=
    let d := Nat.toDigits 10 n
    List.replicate (2 - d.length) '0' ++ d

/-- A double as text: the fewest digits that read back, positional from 1e-4 up to below
1e16 and with an exponent otherwise. -/
def text : Double → String
  | .nan => "nan"
  | .infinite n => if n then "-inf" else "inf"
  | .finite n m e =>
    let sign := if n then ['-'] else []
    if m == 0 then String.ofList (sign ++ ['0', '.', '0'])
    else
      let (d, p) := shortest m e
      let digits := Nat.toDigits 10 d
      let place := (digits.length : Int) + p
      String.ofList (sign ++
        (if -4 < place ∧ place ≤ 16 then positional digits place else scientific digits place))

/-- The double with these digits before and after the point and this exponent. -/
def ofParts (negative : Bool) (whole fraction : List Char) (exponent : Int) : Double :=
  ofDecimal negative (Text.decimalValue (whole ++ fraction)) (exponent - fraction.length)

/-- The digits at the front of a text, and the rest. -/
def spanDigits (cs : List Char) : List Char × List Char := cs.span Text.isDigit

/-- An exponent and nothing after it: a letter, a sign if any, and digits. -/
def readExponent? : List Char → Option Int
  | [] => some 0
  | c :: rest =>
    if c != 'e' && c != 'E' then none
    else
      let (negative, digits) :=
        match rest with
        | '-' :: ds => (true, ds)
        | '+' :: ds => (false, ds)
        | ds => (false, ds)
      if digits.isEmpty || !digits.all Text.isDigit then none
      else
        let significant := digits.dropWhile (fun d => Text.digitValue? d == some 0)
        -- An exponent of more digits is out of range, whatever they are.
        let value := if significant.length ≤ 12 then Text.decimalValue significant else tenTo 12
        some (signed negative value)

/-- A number without its sign: a word for the infinity or for no number, or a decimal. -/
def readUnsigned? (negative : Bool) (cs : List Char) : Option Double :=
  let word := String.ofList (cs.map Char.toLower)
  if word == "inf" || word == "infinity" then some (.infinite negative)
  else if word == "nan" then some .nan
  else
    let (whole, rest) := spanDigits cs
    let (fraction, rest) :=
      match rest with
      | '.' :: r => spanDigits r
      | r => ([], r)
    if whole.isEmpty && fraction.isEmpty then none
    else (readExponent? rest).map (ofParts negative whole fraction)

/-- The double that a text writes: blanks around it and one sign are allowed. -/
def read? (cs : List Char) : Option Double :=
  match Text.trimNumber cs with
  | '-' :: rest => readUnsigned? true rest
  | '+' :: rest => readUnsigned? false rest
  | rest => readUnsigned? false rest

end Double

end SimTerm
