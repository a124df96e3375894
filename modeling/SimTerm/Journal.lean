import SimTerm.Journal.Buffer
import SimTerm.Journal.Event
/-!
# The Journal

The journal is silent until it is started. A start fixes its level and whether it is also
written to a file; later starts change nothing. From then on every entry of at least that level
goes into the buffer of recent entries and into the file. A start whose file cannot be opened
opens the journal all the same and settles nothing: the next start opens it anew, with an empty
buffer.

## Main definitions

* `Message`: What a part of the terminal has to say.
* `Journal`: A journal, silent or started.
* `LogFile`: The file that a journal is to be written to.
* `Journal.start`: Starts a journal.
* `Journal.write`: Takes an entry.
* `Journal.log`: Takes a message.
* `Journal.report`: Takes events.
* `Journal.query`: The recent entries of a level and a subsystem.
-/

namespace SimTerm

/-- What a part of the terminal has to say. -/
structure Message where
  /-- How severe it is. -/
  level : Level
  /-- What happened. -/
  text : String
  /-- The part of the terminal that says so. -/
  subsystem : String := "terminal"
  /-- The session that it is about, or nothing. -/
  session : Json := .null
  /-- Named details, or nothing. -/
  context : Json := .null
  /-- The line of a failure that came with it. -/
  failure : Option String := none
deriving Repr

/-- The entry of a message. Without details it has an empty object of them. -/
def Message.entry (m : Message) : Entry where
  level := m.level.name
  message := m.text
  subsystem := some (.str m.subsystem)
  session := m.session
  context := if m.context.isTruthy then m.context else .obj []

/-- The file that a journal is to be written to. -/
inductive LogFile where
  /-- There is none. -/
  | none
  /-- It can be opened. -/
  | opens
  /-- It cannot be opened. -/
  | fails
deriving Repr, DecidableEq

/-- A started journal. -/
structure OpenJournal where
  /-- The number of the level that it was started at. -/
  threshold : Int
  /-- Whether later starts change nothing. -/
  isSettled : Bool := true
  /-- The recent entries. -/
  buffer : EntryBuffer := {}
  /-- The text written to the file, if there is one. -/
  file : Option String := Option.none
deriving Repr

/-- The least number that is taken by a journal that is started at the number of a level. Zero
stands for no level of its own, and then it goes by the one that is usual elsewhere. -/
def leastTaken (level : Int) : Int := if level = 0 then Level.warning.number else level

/-- A journal, silent or started. -/
structure Journal where
  /-- The started journal. -/
  started : Option OpenJournal := none
deriving Repr, Inhabited

namespace Journal

/-- The number of the level before a journal is started. -/
def silentLevel : Int := Level.info.number

/-- A journal that was just started at the number of a level. -/
def opened (level : Int) (file : LogFile) : OpenJournal where
  threshold := level
  isSettled := file != .fails
  file := if file = .opens then some "" else none

/-- Starts a journal at the number of a level, with or without a file, unless its level is
settled. -/
def start (j : Journal) (level : Int) (file : LogFile) : Journal :=
  match j.started with
  | some o => if o.isSettled then j else ⟨some (opened level file)⟩
  | none => ⟨some (opened level file)⟩

/-- The number of the level of a journal. -/
def level (j : Journal) : Int :=
  match j.started with
  | some o => o.threshold
  | none => silentLevel

/-- What an entry adds to the file: its line, and a failure that came with it; nothing if the
entry cannot be shown. -/
def fileText (now : Moment) (e : Entry) (failure : Option String) : String :=
  match e.line false (Instant.ofMoment now) with
  | .error _ => ""
  | .ok line =>
    line ++
      (match failure with
        | some f => "\n" ++ f
        | none => "") ++ "\n"

/-- Takes an entry of a level at a moment, and in the file a failure that came with it. -/
def write (j : Journal) (now : Moment) (level : Level) (e : Entry) (failure : Option String) :
    Journal :=
  match j.started with
  | none => j
  | some o =>
    if level.number < leastTaken o.threshold then j
    else
      ⟨some { o with
        buffer := o.buffer.record e
        file := o.file.map (· ++ fileText now e failure) }⟩

/-- Takes a message at a moment. -/
def log (j : Journal) (now : Moment) (m : Message) : Journal :=
  j.write now m.level m.entry m.failure

/-- Takes the entry of an event. -/
def reportOne (j : Journal) (now : Moment) (e : Event) : Journal :=
  j.write now e.level e.entry none

/-- Takes the entries of some events, oldest first. -/
def report (j : Journal) (now : Moment) (events : List Event) : Journal :=
  events.foldl (fun j e => j.reportOne now e) j

/-- The recent entries of a level and a subsystem, at most `limit` of them. -/
def query (j : Journal) (level subsystem : Option String) (limit : Int) : List Entry :=
  match j.started with
  | none => []
  | some o => o.buffer.query level subsystem limit

/-- The journal with an empty buffer. -/
def clear (j : Journal) : Journal :=
  ⟨j.started.map (fun o => { o with buffer := o.buffer.clear })⟩

end Journal

end SimTerm
