import SimTerm.Yaml.Token.Directive
/-!
# The Token Stream

All tokens of a text. The reader keeps track of the indentation of the blocks around it and of
the places where a key without an indicator may have started: such a key is only known at its
colon, and then a token is put in front of it.

## Main definitions

* `Yaml.Reader`: Where the reading of tokens stands.
* `Yaml.Reader.next`: Reads on by one token or more.
* `Yaml.TokenStream.ofText`: The tokens of a text.
-/

namespace SimTerm

namespace Yaml

/-- A place where a key without an indicator may have started. -/
structure KeyStart where
  /-- The number of tokens before it. -/
  position : Nat
  /-- Whether it has to be a key, since it starts a line of a mapping. -/
  required : Bool
  /-- Its place. -/
  mark : Mark
deriving Repr

/-- Where the reading of tokens stands. -/
structure Reader where
  /-- The cursor. -/
  cursor : Cursor
  /-- The tokens so far. -/
  tokens : Array Token := #[]
  /-- How many brackets and braces are open. -/
  flow : Int := 0
  /-- The indentation of the innermost block. -/
  indent : Int := -1
  /-- The indentations of the blocks around it, innermost first. -/
  outer : List Int := []
  /-- Whether a key without an indicator may start here. -/
  keyAllowed : Bool := true
  /-- The places where such a key may have started, by the number of open brackets. -/
  keys : List (Int × KeyStart) := []
  /-- Whether the end of the text was reached. -/
  finished : Bool := false

namespace Reader

/-- Whether the cursor is inside brackets or braces. -/
def inFlow (r : Reader) : Bool := r.flow != 0

/-- The place of the cursor. -/
def mark (r : Reader) : Mark := r.cursor.mark

/-- The column of the cursor. -/
def column (r : Reader) : Int := r.mark.column

/-- Appends a token. -/
def push (r : Reader) (kind : TokenKind) (start stop : Mark) : Reader :=
  { r with tokens := r.tokens.push ⟨kind, start, stop⟩ }

/-- Appends a token without extent at the cursor. -/
def pushHere (r : Reader) (kind : TokenKind) : Reader := r.push kind r.mark r.mark

/-- Appends a token of some characters at the cursor. -/
def pushChars (r : Reader) (kind : TokenKind) (count : Nat) : Reader :=
  let after := r.cursor.skip count
  { r.push kind r.mark after.mark with cursor := after }

/-- A key that had to be one has no colon. -/
def missingColon {α : Type} (r : Reader) (key : KeyStart) : Except Fault α :=
  stop (.within "while scanning a simple key" key.mark "could not find expected ':'" r.mark)

/-- Whether a key that started at a place can no longer be one: keys stay on one line and are
not long. -/
def isStale (r : Reader) (key : KeyStart) : Bool :=
  key.mark.line != r.mark.line || key.mark.index + 1024 < r.mark.index

/-- Forgets the keys that can no longer be ones. -/
def dropStale (r : Reader) : Except Fault Reader :=
  match r.keys.find? (fun k => r.isStale k.2 && k.2.required) with
  | some k => r.missingColon k.2
  | none => .ok { r with keys := r.keys.filter (fun k => !r.isStale k.2) }

/-- Forgets the key that may have started inside the innermost brackets. -/
def dropKey (r : Reader) : Except Fault Reader :=
  match r.keys.find? (fun k => k.1 == r.flow) with
  | none => .ok r
  | some k =>
    if k.2.required then r.missingColon k.2
    else .ok { r with keys := r.keys.filter (fun k => k.1 != r.flow) }

/-- Notes that a key may start at the cursor. -/
def noteKey (r : Reader) : Except Fault Reader :=
  if !r.keyAllowed then .ok r
  else
    match r.dropKey with
    | .error e => .error e
    | .ok r =>
      -- At the indentation of a block mapping nothing but a key can start.
      let key : KeyStart := ⟨r.tokens.size, !r.inFlow && r.indent == r.column, r.mark⟩
      .ok { r with keys := r.keys ++ [(r.flow, key)] }

/-- Closes the blocks that are indented more than a column. -/
def unwindBlocks (column : Int) : List Int → Reader → Reader
  | [], r => r
  | outer :: rest, r =>
    if column < r.indent then
      unwindBlocks column rest ({ r with indent := outer, outer := rest }.pushHere .blockEnd)
    else r

/-- Closes the blocks that are indented more than a column, outside of brackets. -/
def unwind (r : Reader) (column : Int) : Reader :=
  if r.inFlow then r else unwindBlocks column r.outer r

/-- Opens a block at a column, if that is indented more than the innermost block. -/
def openBlock (r : Reader) (column : Int) : Option Reader :=
  if r.indent < column then
    some { r with indent := column, outer := r.indent :: r.outer }
  else none

/-- The cursor after spaces, comments and line breaks. After a line break outside of brackets
a key may start. -/
def skipToToken : Nat → Reader → Reader
  | 0, r => r
  | fuel + 1, r =>
    let k := r.cursor.dropSpaces.dropComment
    if isBreak k.peek then
      skipToToken fuel
        { r with cursor := k.lineBreak.2, keyAllowed := r.keyAllowed || !r.inFlow }
    else { r with cursor := k }

/-- The end of the text. -/
def readEnd (r : Reader) : Except Fault Reader :=
  ((r.unwind (-1)).dropKey).map (fun (r : Reader) =>
    { r.pushHere .streamEnd with keyAllowed := false, keys := [], finished := true })

/-- A directive. -/
def readDirectiveLine (r : Reader) : Except Fault Reader :=
  match (r.unwind (-1)).dropKey with
  | .error e => .error e
  | .ok r =>
    match readDirective r.cursor with
    | .error e => .error e
    | .ok ((kind, stop), k) =>
      .ok { r.push kind r.mark stop with keyAllowed := false, cursor := k }

/-- A marker before or after a document. -/
def readMarker (r : Reader) (kind : TokenKind) : Except Fault Reader :=
  ((r.unwind (-1)).dropKey).map (fun (r : Reader) =>
    { r with keyAllowed := false }.pushChars kind 3)

/-- An opening bracket or brace. -/
def readOpening (r : Reader) (kind : TokenKind) : Except Fault Reader :=
  r.noteKey.map (fun (r : Reader) =>
    { r with flow := r.flow + 1, keyAllowed := true }.pushChars kind 1)

/-- A closing bracket or brace. -/
def readClosing (r : Reader) (kind : TokenKind) : Except Fault Reader :=
  r.dropKey.map (fun (r : Reader) =>
    { r with flow := r.flow - 1, keyAllowed := false }.pushChars kind 1)

/-- A comma. -/
def readComma (r : Reader) : Except Fault Reader :=
  ({ r with keyAllowed := true }.dropKey).map (fun (r : Reader) => r.pushChars .flowEntry 1)

/-- Opens a block for an indicator at the cursor, where one may stand. -/
def openFor (r : Reader) (kind : TokenKind) (refusal : String) : Except Fault Reader :=
  if r.inFlow then .ok r
  else if !r.keyAllowed then stop (.at_ refusal r.mark)
  else
    match r.openBlock r.column with
    | some r => .ok (r.pushHere kind)
    | none => .ok r

/-- The dash in front of an item. -/
def readDash (r : Reader) : Except Fault Reader :=
  match r.openFor .blockSequenceStart "sequence entries are not allowed here" with
  | .error e => .error e
  | .ok r =>
    ({ r with keyAllowed := true }.dropKey).map (fun (r : Reader) => r.pushChars .blockEntry 1)

/-- The question mark in front of a key. -/
def readQuestion (r : Reader) : Except Fault Reader :=
  match r.openFor .blockMappingStart "mapping keys are not allowed here" with
  | .error e => .error e
  | .ok r =>
    ({ r with keyAllowed := !r.inFlow }.dropKey).map (fun (r : Reader) => r.pushChars .key 1)

/-- Puts a token in front of the one at a position. -/
def insert (r : Reader) (position : Nat) (kind : TokenKind) (mark : Mark) : Reader :=
  { r with tokens := r.tokens.insertIdxIfInBounds position ⟨kind, mark, mark⟩ }

/-- The colon in front of a value. -/
def readColon (r : Reader) : Except Fault Reader :=
  match r.keys.find? (fun k => k.1 == r.flow) with
  | some (_, key) =>
    let r := { r with keys := r.keys.filter (fun k => k.1 != r.flow) }
    -- The key was read as something else: what makes it a key goes in front of its tokens.
    let r := r.insert key.position .key key.mark
    let r :=
      if r.inFlow then r
      else
        match r.openBlock key.mark.column with
        | some r => r.insert key.position .blockMappingStart key.mark
        | none => r
    .ok ({ r with keyAllowed := false }.pushChars .value 1)
  | none =>
    match r.openFor .blockMappingStart "mapping values are not allowed here" with
    | .error e => .error e
    | .ok r =>
      ({ r with keyAllowed := !r.inFlow }.dropKey).map (fun (r : Reader) => r.pushChars .value 1)

/-- Something that may be or start a key. -/
def readKeyLike (r : Reader) (read : Cursor → Step TokenKind) : Except Fault Reader :=
  match r.noteKey with
  | .error e => .error e
  | .ok r =>
    match read r.cursor with
    | .error e => .error e
    | .ok (kind, k) => .ok { r.push kind r.mark k.mark with keyAllowed := false, cursor := k }

/-- A scalar between quotes. -/
def readQuotedScalar (double : Bool) (k : Cursor) : Step TokenKind :=
  (readQuoted double k).map (fun s => (.scalar (String.ofList s.1) false, s.2))

/-- A literal or folded block. -/
def readBlockScalar (r : Reader) (folded : Bool) : Except Fault Reader :=
  match { r with keyAllowed := true }.dropKey with
  | .error e => .error e
  | .ok r =>
    (readBlock folded r.indent r.cursor).map (fun s =>
      { r.push (.scalar (String.ofList s.text) false) r.mark s.stop with cursor := s.cursor })

/-- A plain scalar. -/
def readPlainScalar (r : Reader) : Except Fault Reader :=
  r.noteKey.map (fun (r : Reader) =>
    let s := readPlain r.inFlow r.indent r.cursor
    { r.push (.scalar (String.ofList s.text) true) r.mark s.stop with
      keyAllowed := s.newLine, cursor := s.cursor })

/-- The characters that have a meaning at the start of a token. -/
def indicators : List Char := "-?:,[]\x7b\x7d#&*!|>'\"%@`".toList

/-- Whether a plain scalar may start at the cursor. -/
def startsPlain (r : Reader) : Bool :=
  let c := r.cursor.peek
  !(isGap c || indicators.contains c) ||
    (!isGap (r.cursor.ahead 1) && (c == '-' || (!r.inFlow && (c == '?' || c == ':'))))

/-- Whether an indicator at the cursor stands for itself. -/
def standsAlone (r : Reader) : Bool := r.inFlow || isGap (r.cursor.ahead 1)

/-- Reads the token at the cursor. -/
def readToken (r : Reader) : Except Fault Reader :=
  let k := r.cursor
  let c := k.peek
  if c == endChar then r.readEnd
  else if c == '%' && r.column == 0 then r.readDirectiveLine
  else if c == '-' && r.column == 0 && k.atMarker then r.readMarker .documentStart
  else if c == '.' && r.column == 0 && k.atMarker then r.readMarker .documentEnd
  else if c == '[' then r.readOpening .flowSequenceStart
  else if c == '\x7b' then r.readOpening .flowMappingStart
  else if c == ']' then r.readClosing .flowSequenceEnd
  else if c == '\x7d' then r.readClosing .flowMappingEnd
  else if c == ',' then r.readComma
  else if c == '-' && isGap (k.ahead 1) then r.readDash
  else if c == '?' && r.standsAlone then r.readQuestion
  else if c == ':' && r.standsAlone then r.readColon
  else if c == '*' then r.readKeyLike (readAnchor true)
  else if c == '&' then r.readKeyLike (readAnchor false)
  else if c == '!' then r.readKeyLike readTag
  else if c == '|' && !r.inFlow then r.readBlockScalar false
  else if c == '>' && !r.inFlow then r.readBlockScalar true
  else if c == '\'' then r.readKeyLike (readQuotedScalar false)
  else if c == '"' then r.readKeyLike (readQuotedScalar true)
  else if r.startsPlain then r.readPlainScalar
  else
    stop (.during "while scanning for the next token"
      ("found character " ++ shown c ++ " that cannot start any token") r.mark)

/-- Goes to the next token and closes the blocks that end before it. -/
def settle (r : Reader) : Except Fault Reader :=
  let r := skipToToken (r.cursor.rest.length + 1) r
  r.dropStale.map (fun (r : Reader) => r.unwind r.column)

/-- Reads on by one token or more. A key that the token leaves behind can no longer be one. -/
def next (r : Reader) : Except Fault Reader :=
  match r.settle with
  | .error e => .error e
  | .ok r =>
    match r.readToken with
    | .error e => .error e
    | .ok r => r.dropStale

/-- The tokens that can no longer become part of a key. -/
def certain (r : Reader) : List Token :=
  match (r.keys.map (fun k => k.2.position)).min? with
  | some n => r.tokens.toList.take n
  | none => r.tokens.toList

/-- Reads all tokens. -/
def readAll : Nat → Reader → TokenStream
  | 0, r => ⟨r.tokens.toList, none⟩
  | fuel + 1, r =>
    if r.finished then ⟨r.tokens.toList, none⟩
    else
      match r.next with
      | .error e => ⟨r.certain, some e⟩
      | .ok r => readAll fuel r

end Reader

/-- Whether YAML allows a character. -/
def isAllowed (c : Char) : Bool :=
  let n := c.toNat
  n == 0x9 || n == 0xA || n == 0xD || (0x20 ≤ n && n ≤ 0x7E) || n == 0x85 ||
    (0xA0 ≤ n && n ≤ 0xD7FF) || (0xE000 ≤ n && n ≤ 0xFFFD) || 0x10000 ≤ n

/-- The cursor at the start of a text, after a byte order mark. -/
def Cursor.atStart (text : List Char) : Cursor :=
  let k := Cursor.start text
  if k.peek.toNat == 0xFEFF then k.advance else k

/-- The tokens of a text. -/
def TokenStream.ofText (text : List Char) : TokenStream :=
  match text.findIdx? (fun c => !isAllowed c) with
  | some i => ⟨[], some (.unprintable ((text[i]?).getD endChar) i)⟩
  | none =>
    Reader.readAll (text.length + 2) { cursor := Cursor.atStart text }

end Yaml

end SimTerm
