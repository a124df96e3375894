import SimTerm.Config.Error
import SimTerm.Config.Settings
import SimTerm.Journal.Entry
import SimTerm.Shell.Persona
/-!
# Validating Settings

Which settings a terminal can run with: caps that are positive whole numbers, a shell that is
one of the four, and a level that is one of the five. These six fields are looked at one after
another, and the first one with another value ends it with a message that shows the value,
unless the value cannot be shown. A configuration is built from an object by taking each known
field from it or, where it has none, the value to start from; what else the object holds is
passed over.

## Main definitions

* `Check`: What is asked of a field.
* `Config.validate`: Checks the fields that cannot have any value.
* `Config.lineCaps`, `Config.keptCaps`: The caps by which a session goes.
* `Config.ofJson`: The configuration that an object gives.
-/

namespace SimTerm

/-- A value is refused with a message about a key. -/
def refuse (text key : String) : ConfigFault := .refused (.validation text (some key))

/-- Whether a value is a cap. -/
def isCap (v : Json) : Bool := (Cap.ofJson? v).isSome

/-- Whether a value names a shell. -/
def isShellName : Json → Bool
  | .str s => Persona.names.contains s
  | _ => false

/-- The level that a value names. -/
def levelOf? : Json → Option Level
  | .str s => Level.ofName? s
  | _ => none

/-- Whether a value names a level. -/
def isLevelName (v : Json) : Bool := (levelOf? v).isSome

/-- What is asked of a field. -/
structure Check where
  /-- The section of the field. -/
  part : String
  /-- The name of the field. -/
  name : String
  /-- The values that it can have. -/
  allows : Json → Bool
  /-- What the message about another value says before it. -/
  before : String
  /-- What it says after it. -/
  behind : String := ""

namespace Check

/-- The key of the field. -/
def key (k : Check) : String := k.part ++ "." ++ k.name

/-- What becomes of another value: it is refused, if it can be shown. -/
def fault (k : Check) (v : Json) : ConfigFault :=
  match v.literal with
  | .ok shown => refuse (k.before ++ shown ++ k.behind) k.key
  | .error u => .unwritable u

/-- Looks at the field, which needs its section. -/
def run (k : Check) (c : Config) : Except ConfigFault Unit :=
  match c.fieldAt? k.part k.name with
  | none => .error .noSection
  | some v => if k.allows v then .ok () else .error (k.fault v)

/-- A field of the session section has to be a cap. -/
def cap (name : String) : Check where
  part := "session"
  name := name
  allows := isCap
  before := "Expected a positive integer, got "

/-- The shell to start with has to be one of the four. -/
def shell : Check where
  part := "shell"
  name := "default_shell"
  allows := isShellName
  before := "Unknown shell "
  behind := "; expected one of " ++ String.intercalate ", " Persona.names

/-- The level has to be one of the five. -/
def level : Check where
  part := "logging"
  name := "level"
  allows := isLevelName
  before := "Unknown log level "

/-- All that is asked, in the order in which it is looked at. -/
def all : List Check :=
  [cap "max_output_lines", cap "max_history", cap "max_dispatch_lines", cap "max_command_length",
    shell, level]

end Check

/-- The fields of a section that has to be one. -/
def Section.demand {α : Type} (s : Section α) : Except ConfigFault α :=
  match s with
  | .settings a => .ok a
  | .replaced _ => .error .noSection

/-- The cap that a value has to be. -/
def Cap.demand (v : Json) : Except ConfigFault Cap :=
  match Cap.ofJson? v with
  | some c => .ok c
  | none => .error .noCap

/-- The caps that each line of a session is held to. -/
@[ext]
structure LineCaps where
  /-- The most lines that one command answers with. -/
  maxDispatchLines : Cap
  /-- The longest name of a command. -/
  maxCommandLength : Cap
deriving Repr

/-- The caps of what a session keeps. -/
@[ext]
structure KeptCaps where
  /-- The most lines that a session's output keeps. -/
  maxOutputLines : Cap
  /-- The most commands that a session's history keeps. -/
  maxHistory : Cap
deriving Repr

namespace Config

/-- Looks at one field after another. -/
def runChecks (c : Config) : List Check → Except ConfigFault Unit
  | [] => .ok ()
  | k :: rest =>
    match k.run c with
    | .error f => .error f
    | .ok _ => c.runChecks rest

/-- Checks the fields that cannot have any value. -/
def validate (c : Config) : Except ConfigFault Unit := c.runChecks Check.all

/-- The caps that each line of a session is held to. -/
def lineCaps (c : Config) : Except ConfigFault LineCaps := do
  let s ← c.session.demand
  let longest ← Cap.demand s.maxCommandLength
  let most ← Cap.demand s.maxDispatchLines
  return ⟨most, longest⟩

/-- The caps of what a session keeps. -/
def keptCaps (c : Config) : Except ConfigFault KeptCaps := do
  let s ← c.session.demand
  let lines ← Cap.demand s.maxOutputLines
  let commands ← Cap.demand s.maxHistory
  return ⟨lines, commands⟩

/-- The fields that an object gives for a section; none if it does not name the section. -/
def sectionFields (data : List (String × Json)) (name : String) :
    Except ConfigFault (List (String × Json)) :=
  match Fields.get? data name with
  | none => .ok []
  | some (.obj fields) => .ok fields
  | some _ => .error .noSection

/-- The value of a field, or the one to start from. -/
def fieldOr (fields : List (String × Json)) (name : String) (start : Json) : Json :=
  (Fields.get? fields name).getD start

/-- The terminal section that fields give. -/
def terminalOf (f : List (String × Json)) : TerminalSettings :=
  let start : TerminalSettings := {}
  { name := fieldOr f "name" start.name
    version := fieldOr f "version" start.version
    welcomeMessage := fieldOr f "welcome_message" start.welcomeMessage }

/-- The session section that fields give. -/
def sessionOf (f : List (String × Json)) : SessionSettings :=
  let start : SessionSettings := {}
  { maxOutputLines := fieldOr f "max_output_lines" start.maxOutputLines
    maxHistory := fieldOr f "max_history" start.maxHistory
    maxDispatchLines := fieldOr f "max_dispatch_lines" start.maxDispatchLines
    maxCommandLength := fieldOr f "max_command_length" start.maxCommandLength }

/-- The shell section that fields give. -/
def shellOf (f : List (String × Json)) : ShellSettings :=
  let start : ShellSettings := {}
  { username := fieldOr f "username" start.username
    hostname := fieldOr f "hostname" start.hostname
    defaultShell := fieldOr f "default_shell" start.defaultShell }

/-- The filesystem section that fields give. -/
def filesOf (f : List (String × Json)) : FileSettings :=
  let start : FileSettings := {}
  { directorySize := fieldOr f "directory_size" start.directorySize
    directoryPermissions := fieldOr f "directory_permissions" start.directoryPermissions
    filePermissions := fieldOr f "file_permissions" start.filePermissions }

/-- The logging section that fields give. -/
def loggingOf (f : List (String × Json)) : LoggingSettings :=
  let start : LoggingSettings := {}
  { level := fieldOr f "level" start.level
    logFile := fieldOr f "log_file" start.logFile
    consoleOutput := fieldOr f "console_output" start.consoleOutput }

/-- The configuration that the fields of an object give. All sections are looked up before
any value is checked. -/
def ofFields (data : List (String × Json)) : Except ConfigFault Config :=
  match sectionFields data "terminal", sectionFields data "session", sectionFields data "shell",
      sectionFields data "filesystem", sectionFields data "logging" with
  | .ok terminal, .ok session, .ok shell, .ok files, .ok logging =>
    let c : Config :=
      { terminal := .settings (terminalOf terminal)
        session := .settings (sessionOf session)
        shell := .settings (shellOf shell)
        files := .settings (filesOf files)
        logging := .settings (loggingOf logging) }
    match c.validate with
    | .error e => .error e
    | .ok _ => .ok c
  | _, _, _, _, _ => .error .noSection

/-- The configuration that a value gives, which has to be an object. -/
def ofJson : Json → Except ConfigFault Config
  | .obj data => ofFields data
  | _ => .error (.refused (.validation "Configuration root must be an object" none))

end Config

end SimTerm
