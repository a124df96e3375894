import SimTerm.Json
/-!
# Settings

The five sections of a configuration and their fields, each with a value to start from. Every
field holds a free-form value: most are only shown, and what the others have to be is a matter
of validation.

## Main definitions

* `Cap`: A positive whole number.
* `TerminalSettings`, `SessionSettings`, `ShellSettings`, `FileSettings`, `LoggingSettings`:
  The sections.
* `Section`: A section, or a plain value that was put in its place.
* `Config`: A configuration.
* `Config.toJson`: A configuration as an object.
* `Config.fieldAt?`: The value of a field.
-/

namespace SimTerm

/-- A positive whole number. -/
structure Cap where
  /-- The number. -/
  val : Nat
  /-- The number is positive. -/
  pos : 0 < val
deriving Repr, DecidableEq

namespace Cap

/-- The cap that a value gives, if it is a positive whole number. -/
def ofJson? : Json → Option Cap
  | .int (.ofNat (n + 1)) => some ⟨n + 1, Nat.succ_pos n⟩
  | _ => none

end Cap

/-- How the terminal names and announces itself. -/
structure TerminalSettings where
  /-- The name. -/
  name : Json := .str "Hyper Terminal"
  /-- The version. -/
  version : Json := .str "1.0.0"
  /-- The first line of a new session. -/
  welcomeMessage : Json := .str "Welcome to Hyper Terminal v1.0.0"
deriving Repr

/-- What bounds a session. -/
structure SessionSettings where
  /-- The most lines that a session's output keeps. -/
  maxOutputLines : Json := .int 1000
  /-- The most commands that a session's history keeps. -/
  maxHistory : Json := .int 100
  /-- The most lines that one command answers with. -/
  maxDispatchLines : Json := .int 500
  /-- The longest name of a command. -/
  maxCommandLength : Json := .int 100
deriving Repr

/-- Who works where, and in which shell. -/
structure ShellSettings where
  /-- The user. -/
  username : Json := .str "user"
  /-- The machine. -/
  hostname : Json := .str "hyper-terminal"
  /-- The persona that a session starts with. -/
  defaultShell : Json := .str "bash"
deriving Repr

/-- What new files and directories look like. -/
structure FileSettings where
  /-- The size that a directory shows. -/
  directorySize : Json := .int 4096
  /-- The permissions of a new directory. -/
  directoryPermissions : Json := .str "drwxr-xr-x"
  /-- The permissions of a new file. -/
  filePermissions : Json := .str "-rw-r--r--"
deriving Repr

/-- What the journal takes and where it goes. -/
structure LoggingSettings where
  /-- The least level that is taken. -/
  level : Json := .str "WARNING"
  /-- The file that it is written to. -/
  logFile : Json := .null
  /-- Whether it is shown on the console. -/
  consoleOutput : Json := .bool true
deriving Repr

/-- A section, or a plain value that was put in its place. -/
inductive Section (α : Type) where
  /-- The section with its fields. -/
  | settings (s : α)
  /-- A plain value. -/
  | replaced (v : Json)
deriving Repr

/-- The fields of a section, or what to keep if there is none. -/
def Section.getD {α : Type} (s : Section α) (keep : α) : α :=
  match s with
  | .settings a => a
  | .replaced _ => keep

/-- The fields of a section, if there is one. -/
def Section.get? {α : Type} : Section α → Option α
  | .settings a => some a
  | .replaced _ => none

/-- The plain value in the place of a section, if there is one. -/
def Section.plain? {α : Type} : Section α → Option Json
  | .settings _ => none
  | .replaced v => some v

/-- A configuration. -/
structure Config where
  /-- How the terminal names and announces itself. -/
  terminal : Section TerminalSettings := .settings {}
  /-- What bounds a session. -/
  session : Section SessionSettings := .settings {}
  /-- Who works where, and in which shell. -/
  shell : Section ShellSettings := .settings {}
  /-- What new files and directories look like. -/
  files : Section FileSettings := .settings {}
  /-- What the journal takes and where it goes. -/
  logging : Section LoggingSettings := .settings {}
deriving Repr

instance : Inhabited Config := ⟨{}⟩

namespace TerminalSettings

/-- The fields by name. -/
def fields (s : TerminalSettings) : List (String × Json) :=
  [("name", s.name), ("version", s.version), ("welcome_message", s.welcomeMessage)]

end TerminalSettings

namespace SessionSettings

/-- The fields by name. -/
def fields (s : SessionSettings) : List (String × Json) :=
  [("max_output_lines", s.maxOutputLines), ("max_history", s.maxHistory),
    ("max_dispatch_lines", s.maxDispatchLines), ("max_command_length", s.maxCommandLength)]

end SessionSettings

namespace ShellSettings

/-- The fields by name. -/
def fields (s : ShellSettings) : List (String × Json) :=
  [("username", s.username), ("hostname", s.hostname), ("default_shell", s.defaultShell)]

end ShellSettings

namespace FileSettings

/-- The fields by name. -/
def fields (s : FileSettings) : List (String × Json) :=
  [("directory_size", s.directorySize), ("directory_permissions", s.directoryPermissions),
    ("file_permissions", s.filePermissions)]

end FileSettings

namespace LoggingSettings

/-- The fields by name. -/
def fields (s : LoggingSettings) : List (String × Json) :=
  [("level", s.level), ("log_file", s.logFile), ("console_output", s.consoleOutput)]

end LoggingSettings

/-- A section as a value: an object of its fields, or the plain value in its place. -/
def Section.toJson {α : Type} (fields : α → List (String × Json)) : Section α → Json
  | .settings s => .obj (fields s)
  | .replaced v => v

namespace Config

/-- The sections by name, as values. -/
def sections (c : Config) : List (String × Json) :=
  [("terminal", c.terminal.toJson TerminalSettings.fields),
    ("session", c.session.toJson SessionSettings.fields),
    ("shell", c.shell.toJson ShellSettings.fields),
    ("filesystem", c.files.toJson FileSettings.fields),
    ("logging", c.logging.toJson LoggingSettings.fields)]

/-- A configuration as an object. -/
def toJson (c : Config) : Json := .obj c.sections

/-- The field of a section by name, as a value. -/
def field? {α : Type} (fields : α → List (String × Json)) (s : Section α) (name : String) :
    Option Json :=
  match s with
  | .settings a => Fields.get? (fields a) name
  | .replaced _ => none

/-- The value of a field of a named section. -/
def fieldAt? (c : Config) (part name : String) : Option Json :=
  match part with
  | "terminal" => field? TerminalSettings.fields c.terminal name
  | "session" => field? SessionSettings.fields c.session name
  | "shell" => field? ShellSettings.fields c.shell name
  | "filesystem" => field? FileSettings.fields c.files name
  | "logging" => field? LoggingSettings.fields c.logging name
  | _ => none

/-- The plain value in the place of a named section. -/
def plainAt? (c : Config) (part : String) : Option Json :=
  match part with
  | "terminal" => c.terminal.plain?
  | "session" => c.session.plain?
  | "shell" => c.shell.plain?
  | "filesystem" => c.files.plain?
  | "logging" => c.logging.plain?
  | _ => none

end Config

end SimTerm
