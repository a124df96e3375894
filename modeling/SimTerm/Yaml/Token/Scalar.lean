import SimTerm.Text.CodeUnit
import SimTerm.Yaml.Cursor
/-!
# Reading YAML Scalars

The five ways to write a scalar: plain, between single or double quotes, and as a literal or a
folded block. A single line break inside a scalar that is not literal is a space, and further
ones stand for themselves.

## Main definitions

* `Yaml.readPlain`: A plain scalar.
* `Yaml.readQuoted`: A scalar between quotes.
* `Yaml.readBlock`: A literal or folded block.
-/

namespace SimTerm

namespace Yaml

/-- A step of reading: what was read and the cursor after it. -/
abbrev Step (α : Type) := Except Fault (α × Cursor)

/-- A problem that ends the reading. -/
def stop {α : Type} (p : Problem) : Except Fault α := .error (.malformed p)

/-! ### Plain scalars -/

/-- Whether a plain scalar stops in front of a character, given the one after it. Inside
brackets more characters have a meaning. -/
def stopsPlain (inFlow : Bool) (c next : Char) : Bool :=
  isGap c || (c == ':' && (isGap next || (inFlow && ",[]\x7b\x7d".toList.contains next))) ||
    (inFlow && ",?[]\x7b\x7d".toList.contains c)

/-- The characters of a plain scalar up to where it stops. -/
def plainRun (inFlow : Bool) : List Char → List Char
  | [] => []
  | c :: cs =>
    if stopsPlain inFlow c (cs.headD endChar) then [] else c :: plainRun inFlow cs

/-- A line break followed by further ones, as the text that they stand for. -/
def foldBreaks (first more : List Char) : List Char :=
  if first != ['\n'] then first ++ more else if more.isEmpty then [' '] else more

/-- The gap after a part of a plain scalar. -/
structure PlainGap where
  /-- The characters that it stands for; none if the scalar ends here. -/
  text : List Char
  /-- The cursor after it. -/
  cursor : Cursor
  /-- Whether it ends a line. -/
  newLine : Bool

/-- The gap after a line break, with the breaks since then. Spaces are dropped; a document
marker ends the scalar. -/
def plainBreaks (first : List Char) : Nat → List Char → Cursor → PlainGap
  | 0, more, k => ⟨foldBreaks first more, k, true⟩
  | fuel + 1, more, k =>
    if k.peek == ' ' then plainBreaks first fuel more k.advance
    else if isBreak k.peek then
      let (b, k) := k.lineBreak
      if k.atMarker then ⟨[], k, true⟩ else plainBreaks first fuel (more ++ b) k
    else ⟨foldBreaks first more, k, true⟩

/-- The gap after a part of a plain scalar. -/
def plainGap (k : Cursor) : PlainGap :=
  let (spaces, k) := k.takeWhile (· == ' ')
  if isBreak k.peek then
    let (b, k) := k.lineBreak
    if k.atMarker then ⟨[], k, true⟩ else plainBreaks b (k.rest.length + 1) [] k
  else ⟨spaces, k, false⟩

/-- A plain scalar as it was read. -/
structure PlainScalar where
  /-- The text. -/
  text : List Char
  /-- The end of the scalar. -/
  stop : Mark
  /-- The cursor after the scalar and the gap that follows it. -/
  cursor : Cursor
  /-- Whether a line was ended after the last part. -/
  newLine : Bool

/-- The parts of a plain scalar after some text and a gap. Parts on later lines have to be
indented. -/
def plainParts (inFlow : Bool) (indent : Int) : Nat → PlainScalar → List Char → PlainScalar
  | 0, s, _ => s
  | fuel + 1, s, gap =>
    let k := s.cursor
    if k.peek == '#' then s
    else
      let run := plainRun inFlow k.rest
      if run.isEmpty then s
      else
        let k := k.skip run.length
        let g := plainGap k
        let s : PlainScalar := ⟨s.text ++ gap ++ run, k.mark, g.cursor, g.newLine⟩
        if g.text.isEmpty || g.cursor.peek == '#' ||
            (!inFlow && (g.cursor.mark.column : Int) < indent) then s
        else plainParts inFlow indent fuel s g.text

/-- A plain scalar. Its later lines have to be indented more than the block around it. -/
def readPlain (inFlow : Bool) (indent : Int) (k : Cursor) : PlainScalar :=
  plainParts inFlow (indent + 1) (k.rest.length + 1) ⟨[], k.mark, k, false⟩ []

/-! ### Quoted scalars -/

/-- The characters that the letters of short escapes stand for. -/
def shortEscapes : List (Char × Nat) := [
  ('0', 0), ('a', 7), ('b', 8), ('t', 9), ('\t', 9), ('n', 10), ('v', 11), ('f', 12),
  ('r', 13), ('e', 0x1B), (' ', 0x20), ('"', 0x22), ('\\', 0x5C), ('/', 0x2F), ('N', 0x85),
  ('_', 0xA0), ('L', 0x2028), ('P', 0x2029)]

/-- How many digits follow the letter of an escape by number. -/
def escapeDigits? (c : Char) : Option Nat :=
  if c == 'x' then some 2 else if c == 'u' then some 4 else if c == 'U' then some 8 else none

/-- What a scalar between double quotes is called in messages. -/
def doubleQuotedContext : String := "while scanning a double-quoted scalar"

/-- The character that an escape by number stands for. -/
def escapedChar (code : Nat) : Except Fault Char :=
  if 0x7FFFFFFF < code then .error (.halted (.conversion .tooLarge))
  else if 0x10FFFF < code then .error (.halted (.conversion .badNumber))
  else .ok (Text.unitChar code)

/-- The second half of a pair of escapes by number, right after the first one. -/
def secondHalf? (k : Cursor) : Option Nat :=
  if k.peek == '\\' && k.ahead 1 == 'u' then
    let digits := (k.rest.drop 2).take 4
    let code := hexNumber digits
    if digits.length == 4 && digits.all isHexDigit && Text.isLowHalf code then some code
    else none
  else none

/-- An escape by number, at its digits. -/
def readEscapedNumber (start : Mark) (count : Nat) (k : Cursor) : Step (List Char) :=
  let digits := k.rest.take count
  let run := digits.takeWhile isHexDigit
  if run.length < count then
    stop (.within doubleQuotedContext start
      ("expected escape sequence of " ++ toString count ++
        " hexadecimal numbers, but found " ++ shown (k.ahead run.length)) k.mark)
  else
    let code := hexNumber digits
    let k := k.skip count
    -- Two escapes of four digits may be the halves of one character.
    match (if count == 4 && Text.isHighHalf code then secondHalf? k else none) with
    | some low => .ok ([Text.pairChar code low], k.skip 6)
    | none =>
      match escapedChar code with
      | .error e => .error e
      | .ok c => .ok ([c], k)

/-- The line breaks inside a quoted scalar, without the spaces and tabs around them. -/
def quotedBreaks (start : Mark) : Nat → Cursor → Step (List Char)
  | 0, k => .ok ([], k)
  | fuel + 1, k =>
    if k.atMarker then
      stop (.within "while scanning a quoted scalar" start
        "found unexpected document separator" k.mark)
    else
      let k := k.dropWhile (fun c => c == ' ' || c == '\t')
      if isBreak k.peek then
        let (b, k) := k.lineBreak
        match quotedBreaks start fuel k with
        | .error e => .error e
        | .ok (more, k) => .ok (b ++ more, k)
      else .ok ([], k)

/-- The spaces, tabs and line breaks inside a quoted scalar, as the text that they stand
for. -/
def quotedGap (start : Mark) (k : Cursor) : Step (List Char) :=
  let (spaces, k) := k.takeWhile (fun c => c == ' ' || c == '\t')
  if k.peek == endChar then
    stop (.within "while scanning a quoted scalar" start "found unexpected end of stream" k.mark)
  else if isBreak k.peek then
    let (b, k) := k.lineBreak
    match quotedBreaks start (k.rest.length + 1) k with
    | .error e => .error e
    | .ok (more, k) => .ok (foldBreaks b more, k)
  else .ok (spaces, k)

/-- An escape after its backslash. -/
def readEscape (start : Mark) (k : Cursor) : Step (List Char) :=
  let c := k.peek
  match shortEscapes.find? (fun e => e.1 == c) with
  | some e => .ok ([Char.ofNat e.2], k.advance)
  | none =>
    match escapeDigits? c with
    | some count => readEscapedNumber start count k.advance
    | none =>
      if isBreak c then
        let k := k.lineBreak.2
        quotedBreaks start (k.rest.length + 1) k
      else
        stop (.within doubleQuotedContext start
          ("found unknown escape character " ++ shown c) k.mark)

/-- Whether a character takes part in a run of a quoted scalar as it is. -/
def isQuotedRunChar (c : Char) : Bool := !(isGap c || c == '\'' || c == '"' || c == '\\')

/-- The rest of a quoted scalar after its opening quote; what was read is in reverse order of
its parts. -/
def quotedParts (double : Bool) (start : Mark) : Nat → List (List Char) → Cursor →
    Step (List Char)
  | 0, _, k =>
    stop (.within "while scanning a quoted scalar" start "found unexpected end of stream" k.mark)
  | fuel + 1, done, k =>
    let (run, k) := k.takeWhile isQuotedRunChar
    let done := run :: done
    let c := k.peek
    if !double && c == '\'' && k.ahead 1 == '\'' then
      quotedParts double start fuel (['\''] :: done) (k.skip 2)
    -- The other quote stands for itself, and between single quotes a backslash does.
    else if (double && c == '\'') || (!double && (c == '"' || c == '\\')) then
      quotedParts double start fuel ([c] :: done) k.advance
    else if double && c == '\\' then
      match readEscape start k.advance with
      | .error e => .error e
      | .ok (text, k) => quotedParts double start fuel (text :: done) k
    else if c == (if double then '"' else '\'') then .ok (done.reverse.flatten, k.advance)
    else
      match quotedGap start k with
      | .error e => .error e
      | .ok (text, k) => quotedParts double start fuel (text :: done) k

/-- A scalar between quotes, at its opening quote. -/
def readQuoted (double : Bool) (k : Cursor) : Step (List Char) :=
  quotedParts double k.mark (2 * k.rest.length + 2) [] k.advance

/-! ### Block scalars -/

/-- What becomes of the line breaks at the end of a block. -/
inductive Chomping where
  /-- The first one is kept. -/
  | clip
  /-- All are dropped. -/
  | strip
  /-- All are kept. -/
  | keep
deriving DecidableEq

/-- What a block is called in messages. -/
def blockContext : String := "while scanning a block scalar"

/-- The indicator for the line breaks at the end. -/
def chomping? (c : Char) : Option Chomping :=
  if c == '+' then some .keep else if c == '-' then some .strip else none

/-- The indicator for the indentation, a digit from one to nine. -/
def readIncrement (start : Mark) (k : Cursor) : Step (Option Nat) :=
  let c := k.peek
  if c == '0' then
    stop (.within blockContext start
      "expected indentation indicator in the range 1-9, but found 0" k.mark)
  else if c.isDigit then .ok (some (c.toNat - '0'.toNat), k.advance)
  else .ok (none, k)

/-- The indicators after the bar or the greater sign, in either order. -/
def readIndicators (start : Mark) (k : Cursor) : Step (Chomping × Option Nat) :=
  let read : Step (Chomping × Option Nat) :=
    match chomping? k.peek with
    | some chomp =>
      match readIncrement start k.advance with
      | .error e => .error e
      | .ok (n, k) => .ok ((chomp, n), k)
    | none =>
      match readIncrement start k with
      | .error e => .error e
      | .ok (none, k) => .ok ((.clip, none), k)
      | .ok (some n, k) =>
        match chomping? k.peek with
        | some chomp => .ok ((chomp, some n), k.advance)
        | none => .ok ((.clip, some n), k)
  match read with
  | .error e => .error e
  | .ok (r, k) =>
    if isSpaceOrEnd k.peek then .ok (r, k)
    else
      stop (.within blockContext start
        ("expected chomping or indentation indicators, but found " ++ shown k.peek) k.mark)

/-- The rest of a line on which only a comment may stand. -/
def readIgnoredLine (context : String) (start : Mark) (k : Cursor) : Except Fault Cursor :=
  let k := k.dropSpaces.dropComment
  if isBreakOrEnd k.peek then .ok k.lineBreak.2
  else
    stop (.within context start
      ("expected a comment or a line break, but found " ++ shown k.peek) k.mark)

/-- The empty lines at the start of a block whose indentation is not given, the widest
indentation met on the way, and the place after the last break. -/
def leadingBreaks : Nat → Nat → List Char → Mark → Cursor → List Char × Nat × Mark × Cursor
  | 0, widest, done, stop, k => (done, widest, stop, k)
  | fuel + 1, widest, done, stop, k =>
    if k.peek == ' ' then
      let k := k.advance
      leadingBreaks fuel (max widest k.mark.column) done stop k
    else if isBreak k.peek then
      let (b, k) := k.lineBreak
      leadingBreaks fuel widest (done ++ b) k.mark k
    else (done, widest, stop, k)

/-- The cursor after spaces, at most up to a column. -/
def dropIndent (indent : Int) : Nat → Cursor → Cursor
  | 0, k => k
  | fuel + 1, k =>
    if (k.mark.column : Int) < indent && k.peek == ' ' then dropIndent indent fuel k.advance
    else k

/-- The empty lines inside a block, and the place after the last break. -/
def blockBreaks (indent : Int) : Nat → List Char → Mark → Cursor → List Char × Mark × Cursor
  | 0, done, stop, k => (done, stop, k)
  | fuel + 1, done, stop, k =>
    let k := dropIndent indent (k.rest.length + 1) k
    if isBreak k.peek then
      let (b, k) := k.lineBreak
      blockBreaks indent fuel (done ++ b) k.mark k
    else (done, stop, k)

/-- A block as it was read. -/
structure BlockScalar where
  /-- The text. -/
  text : List Char
  /-- The end of the block. -/
  stop : Mark
  /-- The cursor after the block. -/
  cursor : Cursor

/-- The end of a block: its last line break and the empty lines after it. -/
def chomp (c : Chomping) (lastBreak more : List Char) : List Char :=
  match c with
  | .strip => []
  | .clip => lastBreak
  | .keep => lastBreak ++ more

/-- Whether a cursor stands at a line of a block. -/
def atBlockLine (indent : Int) (k : Cursor) : Bool :=
  (k.mark.column : Int) == indent && k.peek != endChar

/-- Whether a character is a space or a tab. -/
def isSpaceOrTab (c : Char) : Bool := c == ' ' || c == '\t'

/-- The lines of a block, given the empty lines in front of them. -/
def blockLines (folded : Bool) (indent : Int) (c : Chomping) : Nat → List Char → List Char →
    Mark → Cursor → BlockScalar
  | 0, done, _, stop, k => ⟨done, stop, k⟩
  | fuel + 1, done, breaks, _, k =>
    let leadingNonSpace := !isSpaceOrTab k.peek
    let (line, k) := k.takeWhile (fun c => !isBreak c)
    let done := done ++ breaks ++ line
    let (b, k) := k.lineBreak
    let (breaks, stop, k) := blockBreaks indent (k.rest.length + 1) [] k.mark k
    if atBlockLine indent k then
      -- Two lines are folded into one only if neither of them starts with a space or a tab.
      if folded && b == ['\n'] && leadingNonSpace && !isSpaceOrTab k.peek then
        let done := if breaks.isEmpty then done ++ [' '] else done
        blockLines folded indent c fuel done breaks stop k
      else blockLines folded indent c fuel (done ++ b) breaks stop k
    else ⟨done ++ chomp c b breaks, stop, k⟩

/-- A literal or folded block, at its indicator, inside a block of an indentation. -/
def readBlock (folded : Bool) (outer : Int) (k : Cursor) : Except Fault BlockScalar :=
  let start := k.mark
  match readIndicators start k.advance with
  | .error e => .error e
  | .ok ((c, increment), k) =>
    match readIgnoredLine blockContext start k with
    | .error e => .error e
    | .ok k =>
      let least := max (outer + 1) 1
      let fuel := k.rest.length + 1
      let (breaks, indent, stop, k) : List Char × Int × Mark × Cursor :=
        match increment with
        | none =>
          let (breaks, widest, stop, k) := leadingBreaks fuel 0 [] k.mark k
          (breaks, max least widest, stop, k)
        | some n =>
          -- An indentation that is given counts from the block around it.
          let indent := least + n - 1
          let (breaks, stop, k) := blockBreaks indent fuel [] k.mark k
          (breaks, indent, stop, k)
      if atBlockLine indent k then
        .ok (blockLines folded indent c (k.rest.length + 1) [] breaks stop k)
      else .ok ⟨chomp c [] breaks, stop, k⟩

end Yaml

end SimTerm
