import SimTerm.Text.Quoted
/-!
# Tags of Plain Scalars

A tag says what kind of value a node stands for. A plain scalar without a tag gets one from
its form: a truth value, a number, a time, a merge key, or else a text. One line feed at the
end is passed over.

## Main definitions

* `Yaml.tagStart`: What the standard tags start with.
* `Yaml.plainTag`: The tag of a plain scalar.
-/

namespace SimTerm

namespace Yaml

/-- What the standard tags start with. -/
def tagStart : String := "tag:yaml.org,2002:"

/-- A standard tag. -/
def standardTag (name : String) : String := tagStart ++ name

/-- Whether a text is one of some words. -/
def isOneOf (words : List String) (cs : List Char) : Bool := words.contains (String.ofList cs)

/-- The forms of truth values. -/
def boolWords : List String := [
  "yes", "Yes", "YES", "no", "No", "NO", "true", "True", "TRUE", "false", "False", "FALSE",
  "on", "On", "ON", "off", "Off", "OFF"]

/-- The forms of the absent value. -/
def nullWords : List String := ["~", "null", "Null", "NULL", ""]

/-- Whether a character is a digit or an underscore. -/
def isDigitOrLow (c : Char) : Bool := c.isDigit || c == '_'

/-- A text without a sign in front. -/
def dropSign : List Char → List Char
  | '+' :: cs => cs
  | '-' :: cs => cs
  | cs => cs

/-- Whether a text has characters of a class only, and at least one. -/
def allOf (p : Char → Bool) (cs : List Char) : Bool := !cs.isEmpty && cs.all p

/-- Whether nothing or an exponent with a sign stands at the end of a number. -/
def isExponentOrEnd : List Char → Bool
  | [] => true
  | c :: s :: cs => (c == 'e' || c == 'E') && (s == '+' || s == '-') && allOf Char.isDigit cs
  | _ => false

/-- Whether a text is one or two digits of a base-60 number. -/
def isSixty : List Char → Bool
  | [d] => d.isDigit
  | [t, d] => '0' ≤ t && t ≤ '5' && d.isDigit
  | _ => false

/-- Whether a text is a number that starts with a digit and is split by colons, the parts
after the first one in base 60. -/
def isSixties (first : Char → Bool) (cs : List Char) : Bool :=
  match cs.splitOn ':' with
  | (d :: ds) :: p :: ps => first d && ds.all isDigitOrLow && (p :: ps).all isSixty
  | _ => false

/-- Whether an unsigned text is a decimal with a point after its first digits. -/
def isPointed (cs : List Char) : Bool :=
  match cs.span (· != '.') with
  | (d :: ds, '.' :: rest) =>
    d.isDigit && ds.all isDigitOrLow && isExponentOrEnd (rest.dropWhile isDigitOrLow)
  | _ => false

/-- Whether an unsigned text is a base-60 number with a point. -/
def isPointedSixties (cs : List Char) : Bool :=
  match cs.span (· != '.') with
  | (whole, '.' :: rest) => isSixties Char.isDigit whole && rest.all isDigitOrLow
  | _ => false

/-- Whether a text is a number with a fraction. -/
def isFloat (cs : List Char) : Bool :=
  let body := dropSign cs
  isPointed body || isPointedSixties body || isOneOf [".inf", ".Inf", ".INF"] body ||
    isOneOf [".nan", ".NaN", ".NAN"] cs ||
    (match cs with
      | '.' :: d :: rest => d.isDigit && isExponentOrEnd (rest.dropWhile isDigitOrLow)
      | _ => false)

/-- Whether a character is a digit other than zero. -/
def isLeadingDigit (c : Char) : Bool := '1' ≤ c && c ≤ '9'

/-- Whether a text is a whole number: binary, octal, decimal, hexadecimal or in base 60. -/
def isInteger (cs : List Char) : Bool :=
  match dropSign cs with
  | ['0'] => true
  | '0' :: 'b' :: ds => allOf (fun c => c == '0' || c == '1' || c == '_') ds
  | '0' :: 'x' :: ds =>
    allOf (fun c => isDigitOrLow c || ('a' ≤ c && c ≤ 'f') || ('A' ≤ c && c ≤ 'F')) ds
  | '0' :: ds => allOf (fun c => ('0' ≤ c && c ≤ '7') || c == '_') ds
  | d :: ds =>
    (isLeadingDigit d && ds.all isDigitOrLow) || isSixties isLeadingDigit (d :: ds)
  | [] => false

/-- The parts of a time as they are written. -/
structure TimeParts where
  /-- The year. -/
  year : List Char
  /-- The month. -/
  month : List Char
  /-- The day. -/
  day : List Char
  /-- Hour, minute and second, if there is a time of day. -/
  clock : Option (List Char × List Char × List Char)
  /-- The digits after the point of the seconds. -/
  fraction : List Char
  /-- The distance from universal time: its sign, hours and minutes. -/
  offset : Option (Bool × List Char × List Char)

/-- A number of digits between two bounds at the front of a text, as many as there are. -/
def digitsBetween (least most : Nat) (cs : List Char) : Option (List Char × List Char) :=
  let ds := (cs.take most).takeWhile Char.isDigit
  if least ≤ ds.length then some (ds, cs.drop ds.length) else none

/-- What follows a character. -/
def after (c : Char) : List Char → Option (List Char)
  | d :: cs => if d == c then some cs else none
  | [] => none

/-- What follows the spaces and tabs at the front of a text. -/
def dropGaps (cs : List Char) : List Char := cs.dropWhile (fun c => c == ' ' || c == '\t')

/-- The distance from universal time at the end of a time. -/
def offsetOf? (cs : List Char) : Option (Option (Bool × List Char × List Char)) :=
  match cs with
  | [] => some none
  | _ =>
    match dropGaps cs with
    | ['Z'] => some (some (false, [], []))
    | s :: rest =>
      if s != '+' && s != '-' then none
      else
        match digitsBetween 1 2 rest with
        | none => none
        | some (hours, []) => some (some (s == '-', hours, []))
        | some (hours, more) =>
          match (after ':' more).bind (digitsBetween 2 2) with
          | some (minutes, []) => some (some (s == '-', hours, minutes))
          | _ => none
    | [] => none

/-- The digits after the point of the seconds, if there is a point. -/
def fractionOf (cs : List Char) : List Char × List Char :=
  match cs with
  | '.' :: rest => rest.span Char.isDigit
  | rest => ([], rest)

/-- The time of day after a date. -/
def clockOf? (cs : List Char) : Option (List Char) :=
  match cs with
  | 'T' :: rest => some rest
  | 't' :: rest => some rest
  | c :: _ => if c == ' ' || c == '\t' then some (dropGaps cs) else none
  | [] => none

/-- The parts of a time; months and days may have one digit only. -/
def timeParts? (cs : List Char) : Option TimeParts := do
  let (year, cs) ← digitsBetween 4 4 cs
  let (month, cs) ← (after '-' cs).bind (digitsBetween 1 2)
  let (day, cs) ← (after '-' cs).bind (digitsBetween 1 2)
  if cs.isEmpty then
    some ⟨year, month, day, none, [], none⟩
  else
    let (hour, cs) ← (clockOf? cs).bind (digitsBetween 1 2)
    let (minute, cs) ← (after ':' cs).bind (digitsBetween 2 2)
    let (second, cs) ← (after ':' cs).bind (digitsBetween 2 2)
    let (fraction, cs) := fractionOf cs
    let offset ← offsetOf? cs
    some ⟨year, month, day, some (hour, minute, second), fraction, offset⟩

/-- Whether a text is a time; a date alone needs all its digits. -/
def isTime (cs : List Char) : Bool :=
  match timeParts? cs with
  | none => false
  | some p => p.clock.isSome || (p.month.length == 2 && p.day.length == 2)

/-- A text without one line feed at its end. -/
def dropFinalBreak (cs : List Char) : List Char :=
  if cs.getLast? == some '\n' then cs.dropLast else cs

/-- The tag of a plain scalar. -/
def plainTag (text : List Char) : String :=
  let cs := dropFinalBreak text
  standardTag
    (if isOneOf boolWords cs then "bool"
    else if isFloat cs then "float"
    else if isInteger cs then "int"
    else if isOneOf ["<<"] cs then "merge"
    else if isOneOf nullWords cs && (text.isEmpty || !cs.isEmpty) then "null"
    else if isTime cs then "timestamp"
    else if isOneOf ["="] cs then "value"
    else if isOneOf ["!", "&", "*"] cs then "yaml"
    else "str")

end Yaml

end SimTerm
