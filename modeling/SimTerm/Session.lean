import SimTerm.Builtin
import SimTerm.Command
import SimTerm.CommandError
import SimTerm.Config.Store
import SimTerm.FileSystem
import SimTerm.History
import SimTerm.Output
import SimTerm.Registry
import SimTerm.Shell
import SimTerm.Style.Segment
/-!
# Sessions

A session is all the state of one terminal: the directory tree, the shell, the output, the
history, the registry, the theme and the pen. It is built from the configuration in force.
If that was loaded, the session keeps an eye on it, and a setting that is replaced later takes
effect wherever the session looks at its configuration.

## Main definitions

* `Outcome`: How a command ends.
* `Handler`: What runs when a command is called.
* `Session`: The state of one terminal.
* `Session.start`: A new session.
* `Session.prompt`: What stands in front of the next line of input.
* `Session.observe`: A session after a setting was replaced.
-/

namespace SimTerm

/-- How a command ends. -/
inductive Outcome where
  /-- With lines of output. -/
  | lines (texts : List Json)
  /-- With a refusal. -/
  | refused (e : CommandError)
  /-- In the middle. -/
  | broke

namespace Outcome

/-- An outcome with texts as lines. -/
def texts (ts : List String) : Outcome := .lines (ts.map Json.str)

end Outcome

/-- What runs when a command is called. -/
inductive Handler where
  /-- A built-in command. -/
  | builtin (b : Builtin)
  /-- A command that was added. It sees nothing but its line. -/
  | added (run : Command → Outcome)

/-- The state of one terminal. -/
structure Session where
  /-- The name of the session. -/
  id : String
  /-- The configuration that it looks at. -/
  config : Config
  /-- Whether it keeps an eye on the configuration in force. -/
  isWatching : Bool := false
  /-- The directory tree. -/
  files : FileSystem
  /-- The shell. -/
  shell : Shell
  /-- The number of the next line. -/
  nextLine : Nat := 1
  /-- The output. -/
  output : OutputLog
  /-- The history. -/
  history : History
  /-- The stored workflows and themes. -/
  registry : Registry := .standard
  /-- The name of the active theme. -/
  theme : String := Theme.standardName
  /-- Whether an empty screen was asked for. -/
  clearRequested : Bool := false
  /-- The pen. -/
  pen : Pen := {}
  /-- What runs, by the name of the command. -/
  handlers : List (String × Handler) := Builtin.all.map (fun b => (b.name, .builtin b))

/-- Why there is no session. -/
inductive SessionFault where
  /-- The configuration lacks a section. -/
  | config (f : ConfigFault)
  /-- A cap does not fit the machine. -/
  | cap (f : CapFault)
deriving Repr

namespace Session

/-- A value, or the fault of the configuration that there is none. -/
def configured {α : Type} : Except ConfigFault α → Except SessionFault α
  | .ok a => .ok a
  | .error f => .error (.config f)

/-- A value, or the fault of the cap that there is none. -/
def capped {α : Type} : Except CapFault α → Except SessionFault α
  | .ok a => .ok a
  | .error f => .error (.cap f)

/-- A new session with a configuration. -/
def ofConfig (id : String) (c : Config) (isWatching : Bool) (now : Moment) :
    Except SessionFault Session := do
  let files ← configured c.files.demand
  let shell ← configured c.shell.demand
  let caps ← configured c.keptCaps
  let output ← capped (OutputLog.ofCap caps.maxOutputLines.val)
  let history ← capped (History.ofCap caps.maxHistory.val)
  return { id, config := c, isWatching, files := .standard files now, shell := .start shell,
           output, history }

/-- A new session with the configuration in force. -/
def ofStore (id : String) (store : ConfigStore) (now : Moment) : Except SessionFault Session :=
  ofConfig id store.inForce store.isLoaded now

/-- What the making of a session reports. -/
def startEvents (id : String) : List Event := Registry.standardEvents ++ [.sessionCreated id]

/-- A new session with the configuration in force, reported. -/
def start (id : String) (store : ConfigStore) (now : Moment) :
    Except SessionFault (Traced Session) :=
  (ofStore id store now).map (fun s => ⟨s, startEvents id⟩)

/-- The session with another configuration. A section that is no longer one leaves what was
built from it as it was. -/
def withConfig (s : Session) (c : Config) : Session :=
  { s with
    config := c
    files := s.files.withSettings c.files
    shell := s.shell.withSettings c.shell }

/-- The session after a setting in force was replaced. -/
def observe (s : Session) (store : ConfigStore) : Session :=
  if s.isWatching then s.withConfig store.inForce else s

/-- What stands in front of the next line of input. -/
def prompt (s : Session) : Except Unwritable String := s.shell.prompt s.files.cwdText

/-- Makes lines of one kind with the next numbers. -/
def number (s : Session) (kind : LineKind) (texts : List Json) : List Line × Session :=
  (makeLines kind s.nextLine texts, { s with nextLine := s.nextLine + texts.length })

/-- What runs under a name. -/
def handler? (s : Session) (name : String) : Option Handler := Fields.get? s.handlers name

/-- Adds a command, or replaces what runs under its name. -/
def register (s : Session) (name : String) (run : Command → Outcome) : Session :=
  { s with handlers := Fields.set s.handlers (lowered name) (.added run) }

end Session

end SimTerm
