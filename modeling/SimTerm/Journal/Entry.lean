import SimTerm.Json
import SimTerm.Moment
/-!
# Journal Entries

An entry of the journal: a level, a message, the part of the terminal that it comes from, the
session that it is about, and named details. An entry is shown on one line, and a failure that
came with it on a line of its own. The line starts with the moment at which it is written, and
the entry itself has none, since nothing looks for it there.

## Main definitions

* `Level`: The five levels, by severity.
* `Level.ofName?`: A level by its name, whatever the case of its letters.
* `Entry`: An entry.
* `Entry.line`: The line that shows an entry.
-/

namespace SimTerm

/-- How severe an entry is. -/
inductive Level where
  /-- Details of normal work. -/
  | debug
  /-- Normal work worth a note. -/
  | info
  /-- Something unexpected. -/
  | warning
  /-- A failure. -/
  | error
  /-- A failure that nothing survives. -/
  | critical
deriving Repr, DecidableEq

namespace Level

/-- All levels, mildest first. -/
def all : List Level := [.debug, .info, .warning, .error, .critical]

/-- The severity as a number. -/
def number : Level → Nat
  | .debug => 10
  | .info => 20
  | .warning => 30
  | .error => 40
  | .critical => 50

/-- The name in capitals. -/
def name : Level → String
  | .debug => "DEBUG"
  | .info => "INFO"
  | .warning => "WARNING"
  | .error => "ERROR"
  | .critical => "CRITICAL"

/-- The ASCII capital of a letter, where the dotless i counts as an i. -/
def capital (c : Char) : Char := if c.toNat == 0x131 then 'I' else c.toUpper

/-- The level with a name, whatever the case of its letters. -/
def ofName? (s : String) : Option Level :=
  all.find? (fun l => l.name.toList == s.toList.map capital)

end Level

/-- One entry of the journal. -/
structure Entry where
  /-- The name of the level. -/
  level : String
  /-- What happened. -/
  message : String
  /-- The part of the terminal that it comes from, if the entry names one. -/
  subsystem : Option Json
  /-- The session that it is about, or nothing. -/
  session : Json
  /-- Named details, or nothing. -/
  context : Json
deriving Repr, Inhabited

namespace Entry

/-- The control sequences that colour the names of the five levels. -/
def colours : List (String × String) := [
  ("DEBUG", "\x1b[36m"), ("INFO", "\x1b[32m"), ("WARNING", "\x1b[33m"),
  ("ERROR", "\x1b[31m"), ("CRITICAL", "\x1b[35m")]

/-- The control sequence that ends a colour. -/
def colourEnd : String := "\x1b[0m"

/-- A name filled with blanks to eight characters. -/
def padded (s : String) : String :=
  s ++ String.ofList (List.replicate (8 - s.length) ' ')

/-- The name of the level, filled and perhaps coloured. -/
def levelText (coloured : Bool) (level : String) : String :=
  match Fields.get? colours level with
  | some colour => if coloured then colour ++ padded level ++ colourEnd else padded level
  | none => padded level

/-- The details between braces. -/
def contextText (fields : List (String × Json)) : Except Unwritable String :=
  let shown (f : String × Json) : Except Unwritable String :=
    f.2.display.map (fun text => f.1 ++ "=" ++ text)
  (fields.mapM shown).map (fun ts => "\x7b" ++ String.intercalate " " ts ++ "\x7d")

/-- The parts of the line after the level: subsystem, session, message and details. -/
def parts (e : Entry) : Except Unwritable (List String) := do
  let subsystem ← match e.subsystem with
    | some s => s.display.map (fun shown => ["[" ++ shown ++ "]"])
    | none => .ok []
  let session ← match e.session with
    | .null => .ok []
    | s => s.display.map (fun shown => ["(session=" ++ shown ++ ")"])
  let details ← match e.context with
    | .obj (f :: fs) => (contextText (f :: fs)).map ([·])
    | _ => .ok []
  return subsystem ++ session ++ [e.message] ++ details

/-- The line that shows an entry recorded at an instant. -/
def line (coloured : Bool) (at_ : Instant) (e : Entry) : Except Unwritable String :=
  e.parts.map (fun parts =>
    String.intercalate " " (["[" ++ at_.stamp ++ "]", levelText coloured e.level] ++ parts))

end Entry

/-- The line that shows a failure by its kind and its text. -/
def failureLine (kind text : String) : String :=
  if text.isEmpty then kind else kind ++ ": " ++ text

end SimTerm
