import SimTerm.Json
import SimTerm.Text.CodeUnit
import SimTerm.Text.Integer
/-!
# Reading JSON

A reader for JSON texts that also takes the three number words `NaN`, `Infinity` and
`-Infinity`. A text that is no JSON is refused with a reason and the place where reading
stopped. A whole number with too many digits is refused without a place.

## Main definitions

* `Json.Fault`: Why a text was refused.
* `Json.Fault.message`: The reason with the line, the column and the character position.
* `Json.read`: The value that a text writes.
-/

namespace SimTerm

namespace Json

/-- Why a text was refused. -/
inductive Fault where
  /-- The text breaks the grammar at a character position. -/
  | malformed (reason : String) (position : Nat)
  /-- A whole number has more digits than are converted. -/
  | tooManyDigits
deriving Repr, DecidableEq

/-- The line and the column, both from one, of a character position. -/
def lineColumn (text : List Char) (position : Nat) : Nat × Nat :=
  let before := text.take position
  let line := before.count '\n' + 1
  let column := (before.reverse.takeWhile (fun c => c != '\n')).length + 1
  (line, column)

/-- A reason with the place that it refers to. -/
def placedReason (text : List Char) (reason : String) (position : Nat) : String :=
  let place := lineColumn text position
  reason ++ ": line " ++ toString place.1 ++ " column " ++ toString place.2 ++
    " (char " ++ toString position ++ ")"

/-- Something that was read, the position after it and the rest of the text. -/
structure Parsed (α : Type) where
  /-- What was read. -/
  value : α
  /-- The position after it. -/
  position : Nat
  /-- The rest of the text. -/
  rest : List Char

/-- The blanks of JSON. -/
def isSpace (c : Char) : Bool := c == ' ' || c == '\t' || c == '\n' || c == '\r'

/-- The position and the text after any blanks. -/
def skipSpace (position : Nat) (cs : List Char) : Nat × List Char :=
  let (blanks, rest) := cs.span isSpace
  (position + blanks.length, rest)

/-- The value of a hexadecimal digit. -/
def hexValue? (c : Char) : Option Nat :=
  if '0' ≤ c ∧ c ≤ '9' then some (c.toNat - '0'.toNat)
  else if 'a' ≤ c ∧ c ≤ 'f' then some (c.toNat - 'a'.toNat + 10)
  else if 'A' ≤ c ∧ c ≤ 'F' then some (c.toNat - 'A'.toNat + 10)
  else none

/-- The number that four hexadecimal digits write. -/
def hexQuad? (cs : List Char) : Option Nat :=
  if cs.length == 4 then cs.foldlM (fun n c => (hexValue? c).map (16 * n + ·)) 0 else none

/-- The character that the letter of a short escape stands for. -/
def shortEscape? (c : Char) : Option Char :=
  if c == '"' || c == '\\' || c == '/' then some c
  else if c == 'b' then some '\x08'
  else if c == 'f' then some '\x0c'
  else if c == 'n' then some '\n'
  else if c == 'r' then some '\r'
  else if c == 't' then some '\t'
  else none

/-- One escape by code units, read after its letter `u` at a position: the character, how many
characters were taken, and the rest. -/
def readUnits (position : Nat) (cs : List Char) : Except Fault (Char × Nat × List Char) :=
  let bad (p : Nat) : Except Fault (Char × Nat × List Char) :=
    .error (.malformed "Invalid \\uXXXX escape" p)
  let rest := cs.drop 4
  if rest.isEmpty then bad position
  else
    match hexQuad? (cs.take 4) with
    | none => bad position
    | some high =>
      match rest with
      | '\\' :: 'u' :: more =>
        -- A second half is only looked at if it does not end the text.
        if Text.isHighHalf high && !(more.drop 4).isEmpty then
          match hexQuad? (more.take 4) with
          | none => bad (position + 6)
          | some low =>
            if Text.isLowHalf low then .ok (Text.pairChar high low, 10, more.drop 4)
            else .ok (Text.unitChar high, 4, rest)
        else .ok (Text.unitChar high, 4, rest)
      | _ => .ok (Text.unitChar high, 4, rest)

/-- The rest of a string after its opening quote, whose position is `start`. The characters
read so far are given in reverse. -/
def readString (start : Nat) : Nat → Nat → List Char → List Char → Except Fault (Parsed String)
  | 0, _, _, _ => .error (.malformed "Unterminated string starting at" start)
  | _ + 1, _, _, [] => .error (.malformed "Unterminated string starting at" start)
  | fuel + 1, position, done, c :: cs =>
    if c == '"' then .ok ⟨String.ofList done.reverse, position + 1, cs⟩
    else if c == '\\' then
      match cs with
      | [] => .error (.malformed "Unterminated string starting at" start)
      | 'u' :: more =>
        match readUnits (position + 1) more with
        | .error e => .error e
        | .ok (u, taken, rest) => readString start fuel (position + 2 + taken) (u :: done) rest
      | e :: more =>
        match shortEscape? e with
        | none => .error (.malformed "Invalid \\escape" position)
        | some x => readString start fuel (position + 2) (x :: done) more
    else if c.toNat < 0x20 then .error (.malformed "Invalid control character at" position)
    else readString start fuel (position + 1) (c :: done) cs

/-- Whether a character is an ASCII digit. -/
def isAsciiDigit (c : Char) : Bool := '0' ≤ c && c ≤ '9'

/-- The digits before the point: one zero, or digits that start with another one. -/
def wholeDigits : List Char → List Char × List Char
  | '0' :: rest => (['0'], rest)
  | cs => cs.span isAsciiDigit

/-- The fraction after the whole part, if a point with a digit follows: its characters and the
rest. -/
def fractionDigits : List Char → Option (List Char × List Char)
  | '.' :: rest =>
    let (digits, more) := rest.span isAsciiDigit
    if digits.isEmpty then none else some ('.' :: digits, more)
  | _ => none

/-- The exponent, if a letter, perhaps a sign, and a digit follow: its characters and the
rest. -/
def exponentDigits : List Char → Option (List Char × List Char)
  | c :: rest =>
    if c == 'e' || c == 'E' then
      let (sign, rest) :=
        match rest with
        | '+' :: r => (['+'], r)
        | '-' :: r => (['-'], r)
        | r => ([], r)
      let (digits, more) := rest.span isAsciiDigit
      if digits.isEmpty then none else some (c :: sign ++ digits, more)
    else none
  | [] => none

/-- A number at a position. -/
def readNumber (position : Nat) (cs : List Char) : Except Fault (Parsed Json) :=
  let (sign, body) :=
    match cs with
    | '-' :: rest => (['-'], rest)
    | rest => ([], rest)
  let (whole, rest) := wholeDigits body
  if whole.isEmpty then .error (.malformed "Expecting value" position)
  else
    let fraction := fractionDigits rest
    let rest := (fraction.map Prod.snd).getD rest
    let exponent := exponentDigits rest
    let rest := (exponent.map Prod.snd).getD rest
    let taken :=
      sign ++ whole ++ (fraction.map Prod.fst).getD [] ++ (exponent.map Prod.fst).getD []
    let after := position + taken.length
    if fraction.isNone && exponent.isNone then
      match Text.readInteger? 10 (sign ++ whole) with
      | some n => .ok ⟨.int n, after, rest⟩
      | none => .error .tooManyDigits
    else
      match Double.read? taken with
      | some x => .ok ⟨.float x, after, rest⟩
      | none => .error (.malformed "Expecting value" position)

/-- A word that stands for a value. -/
def words : List (List Char × Json) := [
  ("null".toList, .null), ("true".toList, .bool true), ("false".toList, .bool false),
  ("NaN".toList, .float .nan), ("Infinity".toList, .float (.infinite false)),
  ("-Infinity".toList, .float (.infinite true))]

/-- A word or a number at a position. -/
def readAtom (position : Nat) (cs : List Char) : Except Fault (Parsed Json) :=
  match words.find? (fun w => w.1.isPrefixOf cs) with
  | some w => .ok ⟨w.2, position + w.1.length, cs.drop w.1.length⟩
  | none => readNumber position cs

mutual

/-- A value at a position, without blanks before it. -/
def readValue : Nat → Nat → List Char → Except Fault (Parsed Json)
  | 0, position, _ => .error (.malformed "Expecting value" position)
  | fuel + 1, position, cs =>
    match cs with
    | '"' :: rest =>
      match readString position fuel (position + 1) [] rest with
      | .error e => .error e
      | .ok p => .ok ⟨.str p.value, p.position, p.rest⟩
    | '\x7b' :: rest =>
      let (position, rest) := skipSpace (position + 1) rest
      match rest with
      | '\x7d' :: rest => .ok ⟨.obj [], position + 1, rest⟩
      | rest => readFields fuel position [] rest
    | '[' :: rest =>
      let (position, rest) := skipSpace (position + 1) rest
      match rest with
      | ']' :: rest => .ok ⟨.arr [], position + 1, rest⟩
      | rest => readItems fuel position [] rest
    | cs => readAtom position cs

/-- The items of a list from one that has to follow; those read so far are in reverse. -/
def readItems : Nat → Nat → List Json → List Char → Except Fault (Parsed Json)
  | 0, position, _, _ => .error (.malformed "Expecting value" position)
  | fuel + 1, position, done, cs =>
    match readValue fuel position cs with
    | .error e => .error e
    | .ok p =>
      let (position, rest) := skipSpace p.position p.rest
      match rest with
      | ']' :: rest => .ok ⟨.arr (p.value :: done).reverse, position + 1, rest⟩
      | ',' :: rest =>
        let (position, rest) := skipSpace (position + 1) rest
        readItems fuel position (p.value :: done) rest
      | _ => .error (.malformed "Expecting ',' delimiter" position)

/-- The fields of an object from one that has to follow. -/
def readFields : Nat → Nat → List (String × Json) → List Char → Except Fault (Parsed Json)
  | 0, position, _, _ => .error (.malformed "Expecting value" position)
  | fuel + 1, position, done, cs =>
    match cs with
    | '"' :: rest =>
      match readString position fuel (position + 1) [] rest with
      | .error e => .error e
      | .ok name =>
        let (position, rest) := skipSpace name.position name.rest
        match rest with
        | ':' :: rest =>
          let (position, rest) := skipSpace (position + 1) rest
          match readValue fuel position rest with
          | .error e => .error e
          | .ok p =>
            -- Of equal names the last value counts, in the place of the first.
            let done := Fields.set done name.value p.value
            let (position, rest) := skipSpace p.position p.rest
            match rest with
            | '\x7d' :: rest => .ok ⟨.obj done, position + 1, rest⟩
            | ',' :: rest =>
              let (position, rest) := skipSpace (position + 1) rest
              readFields fuel position done rest
            | _ => .error (.malformed "Expecting ',' delimiter" position)
        | _ => .error (.malformed "Expecting ':' delimiter" position)
    | _ => .error (.malformed "Expecting property name enclosed in double quotes" position)

end

/-- The value that a text writes, with nothing but blanks around it. -/
def read (text : List Char) : Except Fault Json :=
  if text.head? == some (Char.ofNat 0xFEFF) then
    .error (.malformed "Unexpected UTF-8 BOM (decode using utf-8-sig)" 0)
  else
    let (position, cs) := skipSpace 0 text
    match readValue (2 * text.length + 2) position cs with
    | .error e => .error e
    | .ok p =>
      let (position, rest) := skipSpace p.position p.rest
      if rest.isEmpty then .ok p.value else .error (.malformed "Extra data" position)

end Json

end SimTerm
