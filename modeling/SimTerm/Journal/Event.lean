import SimTerm.Journal.Entry
/-!
# Events

What the terminal reports while it works. Every event has one entry in the journal; a step
hands back its events together with its result, oldest first.

## Main definitions

* `Event`: The events.
* `Event.level`, `Event.subsystem`, `Event.message`, `Event.context`: What an entry shows.
* `Traced`: A result together with events.
-/

namespace SimTerm

/-- What the terminal reports. -/
inductive Event where
  /-- A path named no directory to change to. -/
  | directoryRejected (path : String)
  /-- A directory was made inside the current one. -/
  | directoryCreated (cwd name : String)
  /-- A file was made inside the current directory. -/
  | fileCreated (cwd name : String) (size : Nat)
  /-- Another persona became active. -/
  | personaSwitched (persona : String)
  /-- A shell configuration was read into a persona's profile. -/
  | configurationLoaded (persona : String) (aliases assignments functions : Nat)
  /-- A control sequence had no end. -/
  | sequenceDropped (text : String)
  /-- A workflow was stored. -/
  | workflowRegistered (name : String)
  /-- A theme was stored. -/
  | themeRegistered (name : String)
  /-- A workflow document was refused. -/
  | workflowRejected (reason : String)
  /-- A theme document was refused. -/
  | themeRejected (reason : String)
  /-- An answer had more lines than a session shows. -/
  | outputTruncated (session command : String) (lines limit : Nat)
  /-- A line named no command. -/
  | unknownCommand (session command : String)
  /-- A command refused its arguments. -/
  | commandFailed (session command : String) (code : Int)
  /-- A command broke off. -/
  | commandBroke (session command : String)
  /-- A session was opened. -/
  | sessionCreated (session : String)
  /-- A session's output was cleared. -/
  | outputCleared (session : String)
  /-- A tab was opened. -/
  | tabOpened (session : String)
  /-- A tab was closed. -/
  | tabClosed (session : String)
deriving Repr, DecidableEq

namespace Event

/-- How severe an event is. -/
def level : Event → Level
  | .commandBroke .. => .error
  | .tabOpened _ | .tabClosed _ => .info
  | _ => .debug

/-- The part of the terminal that an event comes from. -/
def subsystem : Event → String
  | .directoryRejected _ | .directoryCreated .. | .fileCreated .. => "filesystem"
  | .personaSwitched _ | .configurationLoaded .. => "shell"
  | .sequenceDropped _ => "escape"
  | .workflowRegistered _ | .themeRegistered _ | .workflowRejected _ | .themeRejected _ =>
    "workflows"
  | .outputTruncated .. | .unknownCommand .. | .commandFailed .. | .commandBroke .. =>
    "dispatcher"
  | .sessionCreated _ | .outputCleared _ | .tabOpened _ | .tabClosed _ => "session"

/-- What an event says. -/
def message : Event → String
  | .directoryRejected _ => "Directory change rejected"
  | .directoryCreated .. => "Directory created"
  | .fileCreated .. => "File created"
  | .personaSwitched _ => "Persona switched"
  | .configurationLoaded .. => "Configuration loaded"
  | .sequenceDropped _ => "Dropped unterminated control sequence"
  | .workflowRegistered _ => "Workflow registered"
  | .themeRegistered _ => "Theme registered"
  | .workflowRejected _ => "Rejected workflow document"
  | .themeRejected _ => "Rejected theme document"
  | .outputTruncated .. => "Output truncated"
  | .unknownCommand .. => "Unknown command"
  | .commandFailed .. => "Command failed"
  | .commandBroke _ command => "Built-in " ++ command ++ " raised"
  | .sessionCreated _ => "Session created"
  | .outputCleared _ => "Output cleared"
  | .tabOpened _ => "Tab opened"
  | .tabClosed _ => "Tab closed"

/-- The session that an event is about. -/
def session? : Event → Option String
  | .outputTruncated s .. | .unknownCommand s _ | .commandFailed s .. | .commandBroke s _
  | .sessionCreated s | .outputCleared s | .tabOpened s | .tabClosed s => some s
  | _ => none

/-- A count as a value. -/
def count (n : Nat) : Json := .int n

/-- The details of an event. -/
def context : Event → List (String × Json)
  | .directoryRejected path => [("path", .str path)]
  | .directoryCreated cwd name => [("cwd", .str cwd), ("name", .str name)]
  | .fileCreated cwd name size => [("cwd", .str cwd), ("name", .str name), ("size", count size)]
  | .personaSwitched persona => [("persona", .str persona)]
  | .configurationLoaded persona a v f =>
    [("persona", .str persona), ("aliases", count a), ("variables", count v),
      ("functions", count f)]
  | .sequenceDropped text => [("sequence", .str (quoted text))]
  | .workflowRegistered name | .themeRegistered name => [("name", .str name)]
  | .workflowRejected reason | .themeRejected reason => [("reason", .str reason)]
  | .outputTruncated _ command lines limit =>
    [("command", .str command), ("lines", count lines), ("limit", count limit)]
  | .unknownCommand _ command => [("command", .str command)]
  | .commandFailed _ command code => [("command", .str command), ("error_code", .int code)]
  | _ => []

/-- The entry of an event. -/
def entry (e : Event) : Entry where
  level := e.level.name
  message := e.message
  subsystem := some (.str e.subsystem)
  session := match e.session? with
    | some s => .str s
    | none => .null
  context := .obj e.context

end Event

/-- A result together with the events on the way to it, oldest first. -/
structure Traced (α : Type) where
  /-- The result. -/
  value : α
  /-- The events, oldest first. -/
  events : List Event := []

namespace Traced

/-- A result without events. -/
def pure {α : Type} (value : α) : Traced α := ⟨value, []⟩

/-- The result with a function applied to it. -/
def map {α β : Type} (f : α → β) (t : Traced α) : Traced β := ⟨f t.value, t.events⟩

/-- A further step on the result, its events coming later. -/
def bind {α β : Type} (t : Traced α) (f : α → Traced β) : Traced β :=
  ⟨(f t.value).value, t.events ++ (f t.value).events⟩

end Traced

end SimTerm
