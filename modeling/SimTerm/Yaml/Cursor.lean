import SimTerm.Yaml.Problem
/-!
# Cursors

A cursor stands in a text: it knows its place and what is left of the text. Past the end it
sees the null character, which no YAML text holds.

## Main definitions

* `Yaml.Cursor`: A place with the rest of the text.
* `Yaml.Cursor.peek`, `Yaml.Cursor.ahead`: The characters at and after the cursor.
* `Yaml.Cursor.advance`, `Yaml.Cursor.skip`: The cursor further on.
* `Yaml.Cursor.takeWhile`: A run of characters of a class.
* `Yaml.Cursor.lineBreak`: A line break in its normal form.
-/

namespace SimTerm

namespace Yaml

/-- A place with the rest of the text. -/
structure Cursor where
  /-- The rest of the text. -/
  rest : List Char
  /-- The place. -/
  mark : Mark
deriving Repr, Inhabited

/-- What a cursor sees at the end of the text. -/
def endChar : Char := Char.ofNat 0

/-- Whether a character is the end or ends a line. -/
def isBreakOrEnd (c : Char) : Bool := c == endChar || isBreak c

/-- Whether a character is a space, the end or ends a line. -/
def isSpaceOrEnd (c : Char) : Bool := c == ' ' || isBreakOrEnd c

/-- Whether a character is a space, a tab, the end or ends a line. -/
def isGap (c : Char) : Bool := c == '\t' || isSpaceOrEnd c

namespace Cursor

/-- The start of a text. -/
def start (text : List Char) : Cursor := ⟨text, ⟨0, 0, 0⟩⟩

/-- The character at the cursor. -/
def peek (k : Cursor) : Char := k.rest.headD endChar

/-- The character a number of places after the cursor. -/
def ahead (k : Cursor) (n : Nat) : Char := (k.rest[n]?).getD endChar

/-- The place after a character, given what follows it. -/
def step (m : Mark) (c : Char) (next : List Char) : Mark :=
  if isBreak c && !(c == '\r' && next.head? == some '\n') then ⟨m.index + 1, m.line + 1, 0⟩
  else if c.toNat == 0xFEFF then ⟨m.index + 1, m.line, m.column⟩
  else ⟨m.index + 1, m.line, m.column + 1⟩

/-- The cursor one character further on. -/
def advance (k : Cursor) : Cursor :=
  match k.rest with
  | [] => k
  | c :: cs => ⟨cs, step k.mark c cs⟩

/-- The cursor a number of characters further on. -/
def skip (k : Cursor) : Nat → Cursor
  | 0 => k
  | n + 1 => k.advance.skip n

/-- The run of characters of a class at the cursor, and the cursor after it. -/
def takeWhile (p : Char → Bool) (k : Cursor) : List Char × Cursor :=
  let run := k.rest.takeWhile p
  (run, k.skip run.length)

/-- The cursor after the characters of a class. -/
def dropWhile (p : Char → Bool) (k : Cursor) : Cursor := (k.takeWhile p).2

/-- The cursor after any spaces. -/
def dropSpaces (k : Cursor) : Cursor := k.dropWhile (· == ' ')

/-- The cursor after a comment, if there is one. -/
def dropComment (k : Cursor) : Cursor :=
  if k.peek == '#' then k.dropWhile (fun c => !isBreak c) else k

/-- The line break at the cursor in its normal form, and the cursor after it; nothing if there
is none. The two breaks of one character that end paragraphs stay as they are. -/
def lineBreak (k : Cursor) : List Char × Cursor :=
  let c := k.peek
  if c == '\r' && k.ahead 1 == '\n' then (['\n'], k.skip 2)
  else if c == '\n' || c == '\r' || c.toNat == 0x85 then (['\n'], k.advance)
  else if isBreak c then ([c], k.advance)
  else ([], k)

/-- Whether a document marker of three characters stands at the cursor. -/
def atMarker (k : Cursor) : Bool :=
  let marker := k.rest.take 3
  (marker == ['-', '-', '-'] || marker == ['.', '.', '.']) && isGap (k.ahead 3)

end Cursor

/-- A character as messages show it. -/
def shown (c : Char) : String := quoted (String.ofList [c])

/-- Whether a character can stand in a directive's name, an anchor or a tag's handle. -/
def isNameChar (c : Char) : Bool := c.isAlphanum || c == '-' || c == '_'

/-- Whether a character can stand in a tag. -/
def isUriChar (c : Char) : Bool :=
  c.isAlphanum || "-;/?:@&=+$,_.!~*'()[]%".toList.contains c

/-- Whether a character is a hexadecimal digit. -/
def isHexDigit (c : Char) : Bool :=
  c.isDigit || ('a' ≤ c && c ≤ 'f') || ('A' ≤ c && c ≤ 'F')

/-- The value of a hexadecimal digit. -/
def hexDigit (c : Char) : Nat :=
  if c.isDigit then c.toNat - '0'.toNat
  else if 'a' ≤ c ∧ c ≤ 'f' then c.toNat - 'a'.toNat + 10
  else c.toNat - 'A'.toNat + 10

/-- The number that hexadecimal digits write. -/
def hexNumber (cs : List Char) : Nat := cs.foldl (fun n c => 16 * n + hexDigit c) 0

end Yaml

end SimTerm
