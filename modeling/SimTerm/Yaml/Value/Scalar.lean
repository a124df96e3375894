import SimTerm.Text.Lowercase
import SimTerm.Yaml.Problem
import SimTerm.Yaml.Tag
import SimTerm.Yaml.Value
/-!
# Values of Scalars

The text of a scalar becomes the value that its tag asks for. Numbers may hold underscores,
which do not count, and may be written in base 60 with colons between their digits.

## Main definitions

* `Yaml.wholeNumber`: A whole number in one of five bases.
* `Yaml.numberValue`: A number with a fraction.
* `Yaml.truthValue`: A truth value.
* `Yaml.timeValue`: A date or a time.
* `Yaml.bytesOf`: The bytes that a text in base 64 holds.
-/

namespace SimTerm

namespace Yaml

/-- A text without underscores. -/
def dropLows (cs : List Char) : List Char := cs.filter (· != '_')

/-- A number that a machine word or a conversion refuses. -/
def convert {α : Type} (value : Option α) : Except Conversion α :=
  match value with
  | some v => .ok v
  | none => .error .badNumber

/-- Takes the sign from the front of a number. -/
def takeSign : List Char → Except Conversion (Bool × List Char)
  | [] => .error .emptyNumber
  | '-' :: cs => .ok (true, cs)
  | '+' :: cs => .ok (false, cs)
  | cs => .ok (false, cs)

/-- The whole number with digits in base 60, the largest first. -/
def sixties (digits : List Int) : Int := digits.foldl (fun n d => 60 * n + d) 0

/-- The magnitude of a whole number: binary after `0b`, hexadecimal after `0x`, octal after
another zero, in base 60 with colons, or decimal. -/
def wholeMagnitude (cs : List Char) : Except Conversion Int :=
  match cs with
  | [] => .error .emptyNumber
  | ['0'] => .ok 0
  | '0' :: 'b' :: ds => convert (Text.readInteger? 2 ds)
  | '0' :: 'x' :: ds => convert (Text.readInteger? 16 ds)
  | '0' :: _ => convert (Text.readInteger? 8 cs)
  | _ =>
    if cs.contains ':' then
      (convert ((cs.splitOn ':').mapM (Text.readInteger? 10))).map sixties
    else convert (Text.readInteger? 10 cs)

/-- A whole number. -/
def wholeNumber (text : String) : Except Conversion Int := do
  let (negative, cs) ← takeSign (dropLows text.toList)
  let n ← wholeMagnitude cs
  return if negative then -n else n

/-- The sum of numbers in base 60, the one with the smallest weight first. The weights are
whole numbers, and the sum is rounded after each step. -/
def sumSixties : Nat → Double → List Double → Except Conversion Double
  | _, sum, [] => .ok sum
  | weight, sum, d :: ds =>
    match Double.ofRatio false weight 1 with
    | .infinite _ => .error .tooLarge
    | _ => sumSixties (60 * weight) (sum.add (d.mulNat weight)) ds

/-- The magnitude of a number with a fraction. -/
def magnitude (cs : List Char) : Except Conversion Double :=
  if String.ofList cs == ".inf" then .ok (.infinite false)
  else if cs.contains ':' then do
    let digits ← convert ((cs.splitOn ':').mapM Double.read?)
    sumSixties 1 (.finite false 0 0) digits.reverse
  else convert (Double.read? cs)

/-- A number with a fraction, read at a node. The word for no number stands for one and the
same value everywhere; where a conversion comes to no number, the value is the node's own. -/
def numberValue (node : Nat) (text : String) : Except Conversion Value := do
  let (negative, cs) ← takeSign (Text.lower (dropLows text.toList))
  if String.ofList cs == ".nan" then return .float .nan
  match ← magnitude cs with
  | .nan => return .noNumber node
  | x => return .float (if negative then x.neg else x)

/-- A truth value. -/
def truthValue (text : String) : Except Conversion Bool :=
  let word := lowered text
  if ["yes", "true", "on"].contains word then .ok true
  else if ["no", "false", "off"].contains word then .ok false
  else .error .unknownWord

/-- The microseconds of a fraction: its first six digits. -/
def microsOf (fraction : List Char) : Nat :=
  let digits := fraction.take 6
  Text.decimalValue (digits ++ List.replicate (6 - digits.length) '0')

/-- The distance from universal time in minutes; it is less than a day. -/
def offsetMinutes? : Bool × List Char × List Char → Option Int
  | (negative, hours, minutes) =>
    let n := Text.decimalValue hours * 60 + Text.decimalValue minutes
    if n < 1440 then some (if negative then -(n : Int) else n) else none

/-- The date or time that some parts make up, if there is one. -/
def timeOfParts? (p : TimeParts) : Option Value :=
  let year := Text.decimalValue p.year
  let month := Text.decimalValue p.month
  let day := Text.decimalValue p.day
  if !Moment.isDate year month day then none
  else
    match p.clock with
    | none => some (.date year month day)
    | some (h, m, s) =>
      let hour := Text.decimalValue h
      let minute := Text.decimalValue m
      let second := Text.decimalValue s
      if 23 < hour || 59 < minute || 59 < second then none
      else
        let time (offset : Option Int) : Value :=
          .time ⟨⟨year, month, day, hour, minute, second⟩, microsOf p.fraction, offset⟩
        match p.offset with
        | none => some (time none)
        | some o => (offsetMinutes? o).map (fun minutes => time (some minutes))

/-- A date or a time. -/
def timeValue (text : String) : Except Conversion Value :=
  match timeParts? (dropFinalBreak text.toList) with
  | none => .error .noTimestamp
  | some p => convert (timeOfParts? p)

/-- The value of a digit in base 64. -/
def base64Digit? (c : Char) : Option Nat :=
  if 'A' ≤ c ∧ c ≤ 'Z' then some (c.toNat - 'A'.toNat)
  else if 'a' ≤ c ∧ c ≤ 'z' then some (c.toNat - 'a'.toNat + 26)
  else if c.isDigit then some (c.toNat - '0'.toNat + 52)
  else if c == '+' then some 62
  else if c == '/' then some 63
  else none

/-- The digits of a text in base 64, up to its end or to the padding that completes a group of
four. Padding after fewer than two digits of a group, and other characters, do not count. -/
def base64Digits : List Nat → Nat → List Char → List Nat × Bool
  | done, _, [] => (done.reverse, false)
  | done, pads, c :: cs =>
    if c == '=' then
      let place := done.length % 4
      if place < 2 then base64Digits done pads cs
      else if 4 ≤ place + pads + 1 then (done.reverse, true)
      else base64Digits done (pads + 1) cs
    else
      match base64Digit? c with
      | none => base64Digits done pads cs
      | some d => base64Digits (d :: done) 0 cs

/-- The bytes that digits in base 64 make up. -/
def bytesOfDigits : List Nat → List Nat
  | a :: b :: c :: d :: rest =>
    (4 * a + b / 16) :: (16 * (b % 16) + c / 4) :: (64 * (c % 4) + d) :: bytesOfDigits rest
  | [a, b, c] => [4 * a + b / 16, 16 * (b % 16) + c / 4]
  | [a, b] => [4 * a + b / 16]
  | _ => []

/-- Why a text holds characters that are no part of the base 64 alphabet's script: the first
run of them, by its place. -/
def foreignRun? (cs : List Char) : Option String :=
  let plain := cs.takeWhile (fun c => c.toNat < 128)
  let rest := cs.drop plain.length
  let run := rest.takeWhile (fun c => 128 ≤ c.toNat)
  match run with
  | [] => none
  | [c] =>
    some ("character '" ++ String.ofList (Text.codeEscape c) ++ "' in position " ++
      toString plain.length)
  | _ =>
    some ("characters in position " ++ toString plain.length ++ "-" ++
      toString (plain.length + run.length - 1))

/-- The bytes that a text in base 64 holds, or what is wrong with it. -/
def bytesOf (text : String) : Except String (List Nat) :=
  match foreignRun? text.toList with
  | some run =>
    .error ("failed to convert base64 data into ascii: 'ascii' codec can't encode " ++ run ++
      ": ordinal not in range(128)")
  | none =>
    let (digits, padded) := base64Digits [] 0 text.toList
    let left := digits.length % 4
    if padded || left == 0 then .ok (bytesOfDigits digits)
    else if left == 1 then
      .error ("failed to decode base64 data: Invalid base64-encoded string: number of data " ++
        "characters (" ++ toString digits.length ++ ") cannot be 1 more than a multiple of 4")
    else .error "failed to decode base64 data: Incorrect padding"

end Yaml

end SimTerm
