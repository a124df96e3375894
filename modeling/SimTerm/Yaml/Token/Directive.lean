import SimTerm.Text.Integer
import SimTerm.Yaml.Token
import SimTerm.Yaml.Token.Scalar
/-!
# Reading Directives, Anchors and Tags

The parts of a YAML text that start with a percent sign, an ampersand, an asterisk or an
exclamation mark.

## Main definitions

* `Yaml.readDirective`: A directive with the rest of its line.
* `Yaml.readAnchor`: An anchor or a reference to one.
* `Yaml.readTag`: A tag.
-/

namespace SimTerm

namespace Yaml

/-- What a directive is called in messages. -/
def directiveContext : String := "while scanning a directive"

/-- A problem in a directive with the character at the cursor. -/
def directiveProblem {α : Type} (start : Mark) (expected : String) (k : Cursor) :
    Except Fault α :=
  stop (.within directiveContext start (expected ++ ", but found " ++ shown k.peek) k.mark)

/-! ### Tags -/

/-- The bytes of a run of escapes in a tag. -/
def readUriBytes (context : String) (start : Mark) : Nat → List Nat → Cursor → Step (List Nat)
  | 0, done, k => .ok (done, k)
  | fuel + 1, done, k =>
    if k.peek != '%' then .ok (done, k)
    else
      let k := k.advance
      let digits := k.rest.take 2
      let run := digits.takeWhile isHexDigit
      if run.length < 2 then
        stop (.within context start
          ("expected URI escape sequence of 2 hexadecimal numbers, but found " ++
            shown (k.ahead run.length)) k.mark)
      else readUriBytes context start fuel (done ++ [hexNumber digits]) (k.skip 2)

/-- Whether a byte goes on with a character of several bytes. -/
def isContinuation (b : Nat) : Bool := 0x80 ≤ b && b ≤ 0xBF

/-- What the first byte of a character says: how many bytes follow, its own part of the
character's number, and the bounds of the second byte. -/
def leadByte? (b : Nat) : Option (Nat × Nat × Nat × Nat) :=
  if b < 0x80 then some (0, b, 0, 0)
  else if 0xC2 ≤ b && b ≤ 0xDF then some (1, b - 0xC0, 0x80, 0xBF)
  else if 0xE0 ≤ b && b ≤ 0xEF then
    some (2, b - 0xE0, if b == 0xE0 then 0xA0 else 0x80, if b == 0xED then 0x9F else 0xBF)
  else if 0xF0 ≤ b && b ≤ 0xF4 then
    some (3, b - 0xF0, if b == 0xF0 then 0x90 else 0x80, if b == 0xF4 then 0x8F else 0xBF)
  else none

/-- The bytes at the front of a list that go on with a character. -/
def followers (low high : Nat) : List Nat → List Nat
  | [] => []
  | b :: bs => if low ≤ b && b ≤ high then b :: bs.takeWhile isContinuation else []

/-- What is wrong with bytes from a position on, of which some were good. -/
def badBytes (b position good : Nat) (reason : String) : String :=
  let place :=
    if good == 0 then
      "byte 0x" ++ String.ofList (Text.hexText 2 b) ++ " in position " ++ toString position
    else "bytes in position " ++ toString position ++ "-" ++ toString (position + good)
  "'utf-8' codec can't decode " ++ place ++ ": " ++ reason

/-- The characters that bytes encode, or what is wrong with the bytes. -/
def decodeBytes : Nat → Nat → List Nat → Except String (List Char)
  | 0, _, _ => .ok []
  | _, _, [] => .ok []
  | fuel + 1, position, b :: rest =>
    match leadByte? b with
    | none => .error (badBytes b position 0 "invalid start byte")
    | some (count, part, low, high) =>
      let more := rest.take count
      let good := followers low high more
      if good.length == count then
        match decodeBytes fuel (position + count + 1) (rest.drop count) with
        | .error e => .error e
        | .ok cs => .ok (Char.ofNat (good.foldl (fun c x => 64 * c + (x - 0x80)) part) :: cs)
      else
        .error (badBytes b position good.length
          (if good.length < more.length then "invalid continuation byte"
            else "unexpected end of data"))

/-- A run of escapes in a tag as the characters that they stand for. -/
def readUriEscapes (context : String) (start : Mark) (k : Cursor) : Step (List Char) :=
  match readUriBytes context start (k.rest.length + 1) [] k with
  | .error e => .error e
  | .ok (bytes, k') =>
    match decodeBytes (bytes.length + 1) 0 bytes with
    | .error reason => stop (.within context start reason k.mark)
    | .ok cs => .ok (cs, k')

/-- The characters of a tag up to the first one that cannot stand in it. -/
def uriParts (context : String) (start : Mark) : Nat → List Char → Cursor → Step (List Char)
  | 0, done, k => .ok (done, k)
  | fuel + 1, done, k =>
    let (run, k) := k.takeWhile (fun c => isUriChar c && c != '%')
    let done := done ++ run
    if k.peek == '%' then
      match readUriEscapes context start k with
      | .error e => .error e
      | .ok (cs, k) => uriParts context start fuel (done ++ cs) k
    else .ok (done, k)

/-- The part of a tag after its handle. -/
def readUri (name : String) (start : Mark) (k : Cursor) : Step (List Char) :=
  let k₀ := k
  match uriParts ("while scanning a " ++ name) start (k.rest.length + 1) [] k with
  | .error e => .error e
  | .ok (cs, k) =>
    if k.mark.index == k₀.mark.index then
      stop (.within ("while parsing a " ++ name) start ("expected URI, but found " ++ shown k.peek)
        k.mark)
    else .ok (cs, k)

/-- The handle of a tag: an exclamation mark, or a name between two of them. -/
def readHandle (name : String) (start : Mark) (k : Cursor) : Step (List Char) :=
  let context := "while scanning a " ++ name
  let missing (k : Cursor) : Step (List Char) :=
    stop (.within context start ("expected '!', but found " ++ shown k.peek) k.mark)
  if k.peek != '!' then missing k
  else if k.ahead 1 == ' ' then .ok (['!'], k.advance)
  else
    let (run, after) := k.advance.takeWhile isNameChar
    if after.peek != '!' then missing after else .ok ('!' :: run ++ ['!'], after.advance)

/-- Whether an exclamation mark follows in the run of characters at a cursor. -/
def hasSecondMark (k : Cursor) : Bool :=
  (k.rest.takeWhile (fun c => !isSpaceOrEnd c)).contains '!'

/-- A tag, at its exclamation mark. -/
def readTag (k : Cursor) : Step TokenKind :=
  let start := k.mark
  let next := k.ahead 1
  let read : Step TokenKind :=
    if next == '<' then
      match readUri "tag" start (k.skip 2) with
      | .error e => .error e
      | .ok (cs, k) =>
        if k.peek == '>' then .ok (.tag none (String.ofList cs), k.advance)
        else
          stop (.within "while parsing a tag" start ("expected '>', but found " ++ shown k.peek)
            k.mark)
    else if isGap next then .ok (.tag none "!", k.advance)
    else
      let handle : Step (List Char) :=
        if hasSecondMark k.advance then readHandle "tag" start k else .ok (['!'], k.advance)
      match handle with
      | .error e => .error e
      | .ok (handle, k) =>
        match readUri "tag" start k with
        | .error e => .error e
        | .ok (cs, k) => .ok (.tag (some (String.ofList handle)) (String.ofList cs), k)
  match read with
  | .error e => .error e
  | .ok (t, k) =>
    if isSpaceOrEnd k.peek then .ok (t, k)
    else
      stop (.within "while scanning a tag" start ("expected ' ', but found " ++ shown k.peek)
        k.mark)

/-! ### Anchors -/

/-- Whether a character can follow an anchor. -/
def endsAnchor (c : Char) : Bool := isGap c || "?:,]\x7d%@`".toList.contains c

/-- An anchor or a reference to one, at its indicator. -/
def readAnchor (isAlias : Bool) (k : Cursor) : Step TokenKind :=
  let start := k.mark
  let context := if isAlias then "while scanning an alias" else "while scanning an anchor"
  let (name, k) := k.advance.takeWhile isNameChar
  if name.isEmpty || !endsAnchor k.peek then
    stop (.within context start
      ("expected alphabetic or numeric character, but found " ++ shown k.peek) k.mark)
  else
    let name := String.ofList name
    .ok (if isAlias then .reference name else .anchor name, k)

/-! ### Directives -/

/-- One of the two numbers of a version. -/
def readVersionNumber (start : Mark) (k : Cursor) : Step Nat :=
  if !k.peek.isDigit then directiveProblem start "expected a digit" k
  else
    let (digits, k) := k.takeWhile Char.isDigit
    match Text.readDecimal? digits with
    | some n => .ok (n, k)
    | none => .error (.halted (.conversion .badNumber))

/-- The version that a directive names. -/
def readVersion (start : Mark) (k : Cursor) : Step TokenKind :=
  match readVersionNumber start k.dropSpaces with
  | .error e => .error e
  | .ok (major, k) =>
    if k.peek != '.' then directiveProblem start "expected a digit or '.'" k
    else
      match readVersionNumber start k.advance with
      | .error e => .error e
      | .ok (minor, k) =>
        if isSpaceOrEnd k.peek then .ok (.version major minor, k)
        else directiveProblem start "expected a digit or ' '" k

/-- The handle and the beginning of tags that a directive names. -/
def readHandleDirective (start : Mark) (k : Cursor) : Step TokenKind :=
  match readHandle "directive" start k.dropSpaces with
  | .error e => .error e
  | .ok (handle, k) =>
    if k.peek != ' ' then directiveProblem start "expected ' '" k
    else
      match readUri "directive" start k.dropSpaces with
      | .error e => .error e
      | .ok (cs, k) =>
        if isSpaceOrEnd k.peek then
          .ok (.handle (String.ofList handle) (String.ofList cs), k)
        else directiveProblem start "expected ' '" k

/-- A directive with the rest of its line, at its percent sign: what it is, where it ends, and
the cursor on the next line. -/
def readDirective (k : Cursor) : Step (TokenKind × Mark) :=
  let start := k.mark
  let (name, k) := k.advance.takeWhile isNameChar
  if name.isEmpty || !isSpaceOrEnd k.peek then
    directiveProblem start "expected alphabetic or numeric character" k
  else
    let read : Step (TokenKind × Mark) :=
      let word := String.ofList name
      if word == "YAML" then
        (readVersion start k).map (fun r => ((r.1, r.2.mark), r.2))
      else if word == "TAG" then
        (readHandleDirective start k).map (fun r => ((r.1, r.2.mark), r.2))
      else .ok ((.otherDirective, k.mark), k.dropWhile (fun c => !isBreak c))
    match read with
    | .error e => .error e
    | .ok (d, k) => (readIgnoredLine directiveContext start k).map (fun k => (d, k))

end Yaml

end SimTerm
