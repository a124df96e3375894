import SimTerm.Config.Validation
import SimTerm.Json.Reader
/-!
# The Configuration in Force

The store holds the configuration that was loaded last, or none, in which case the settings to
start from are in force. Single settings are read and replaced by keys, the names of a section
and a field with a dot between them. A longer key goes on to what a value has by itself, which
can be read and not replaced.

A replacement is made first and looked at afterwards. One that is refused is not made. Where
validation cannot say what it refuses, because a section was replaced by a plain value or a
value cannot be shown, the replacement stays made.

## Main definitions

* `Json.attribute?`: What a value has by itself under a name.
* `ConfigStore`: The configuration in force.
* `ConfigStore.loadJson`, `ConfigStore.loadText`, `ConfigStore.load`: Loading.
* `ConfigStore.get`: What there is under a key.
* `ConfigStore.set`: Replaces the value under a key.
-/

namespace SimTerm

/-- The names in a key, between its dots. -/
def keyParts (key : String) : List String :=
  (key.toList.splitOn '.').map String.ofList

/-- What a value has by itself under a name. -/
inductive Attribute where
  /-- Another value. -/
  | value (v : Json)
  /-- Something that can be done with the value. -/
  | operation
deriving Repr

namespace Json

/-- The names of what can be done with whole numbers. -/
def integerOperations : List String :=
  ["as_integer_ratio", "bit_count", "bit_length", "conjugate", "from_bytes", "to_bytes"]

/-- The names of what can be done with numbers with a fraction. -/
def floatOperations : List String :=
  ["as_integer_ratio", "conjugate", "fromhex", "hex", "is_integer"]

/-- The names of what can be done with texts. -/
def textOperations : List String := [
  "capitalize", "casefold", "center", "count", "encode", "endswith", "expandtabs", "find",
  "format", "format_map", "index", "isalnum", "isalpha", "isascii", "isdecimal", "isdigit",
  "isidentifier", "islower", "isnumeric", "isprintable", "isspace", "istitle", "isupper", "join",
  "ljust", "lower", "lstrip", "maketrans", "partition", "removeprefix", "removesuffix", "replace",
  "rfind", "rindex", "rjust", "rpartition", "rsplit", "rstrip", "split", "splitlines",
  "startswith", "strip", "swapcase", "title", "translate", "upper", "zfill"]

/-- The names of what can be done with lists. -/
def listOperations : List String := [
  "append", "clear", "copy", "count", "extend", "index", "insert", "pop", "remove", "reverse",
  "sort"]

/-- The names of what can be done with objects. -/
def objectOperations : List String := [
  "clear", "copy", "fromkeys", "get", "items", "keys", "pop", "popitem", "setdefault", "update",
  "values"]

/-- The names of what can be done with a value. -/
def operations : Json → List String
  | .null => []
  | .bool _ | .int _ => integerOperations
  | .float _ => floatOperations
  | .str _ => textOperations
  | .arr _ => listOperations
  | .obj _ => objectOperations

/-- The number that a truth value counts as. -/
def truthNumber (b : Bool) : Int := if b then 1 else 0

/-- The numbers that a number is made of, by name. -/
def component? : Json → String → Option Json
  | .bool b, "real" | .bool b, "numerator" => some (.int (truthNumber b))
  | .int n, "real" | .int n, "numerator" => some (.int n)
  | .bool _, "denominator" | .int _, "denominator" => some (.int 1)
  | .bool _, "imag" | .int _, "imag" => some (.int 0)
  | .float x, "real" => some (.float x)
  | .float _, "imag" => some (.float (.finite false 0 0))
  | _, _ => none

/-- What a value has by itself under a name. -/
def attribute? (v : Json) (name : String) : Option Attribute :=
  match v.component? name with
  | some part => some (.value part)
  | none => if v.operations.contains name then some .operation else none

end Json

/-- What there is under some names, one after another. Nothing is under a name of what can be
done with a value. -/
def Attribute.follow? : Attribute → List String → Option Attribute
  | a, [] => some a
  | .value v, name :: rest => (v.attribute? name).bind (fun a => a.follow? rest)
  | .operation, _ :: _ => none

/-- What there is under the name of a configuration file. -/
inductive Source where
  /-- Nothing. -/
  | missing
  /-- A directory, with its name in normal form. -/
  | directory (name : String)
  /-- A file with a text. -/
  | file (text : String)

/-- A text with every line break of one or two characters as a line feed. -/
def unifyBreaks : List Char → List Char
  | [] => []
  | '\r' :: '\n' :: cs => '\n' :: unifyBreaks cs
  | '\r' :: cs => '\n' :: unifyBreaks cs
  | c :: cs => c :: unifyBreaks cs

namespace Config

/-- What there is under the names of a key. -/
def lookup? (c : Config) : List String → Option Attribute
  | [] => none
  | [part] => (Fields.get? c.sections part).map .value
  | part :: name :: rest =>
    match c.fieldAt? part name with
    | some v => (Attribute.value v).follow? rest
    | none => (c.plainAt? part).bind (fun v => (Attribute.value v).follow? (name :: rest))

/-- The configuration with a plain value in the place of a section. -/
def replaceSection? (c : Config) (part : String) (v : Json) : Option Config :=
  match part with
  | "terminal" => some { c with terminal := .replaced v }
  | "session" => some { c with session := .replaced v }
  | "shell" => some { c with shell := .replaced v }
  | "filesystem" => some { c with files := .replaced v }
  | "logging" => some { c with logging := .replaced v }
  | _ => none

/-- The terminal section with another value in a field. -/
def setTerminal? (s : TerminalSettings) (name : String) (v : Json) : Option TerminalSettings :=
  match name with
  | "name" => some { s with name := v }
  | "version" => some { s with version := v }
  | "welcome_message" => some { s with welcomeMessage := v }
  | _ => none

/-- The session section with another value in a field. -/
def setSession? (s : SessionSettings) (name : String) (v : Json) : Option SessionSettings :=
  match name with
  | "max_output_lines" => some { s with maxOutputLines := v }
  | "max_history" => some { s with maxHistory := v }
  | "max_dispatch_lines" => some { s with maxDispatchLines := v }
  | "max_command_length" => some { s with maxCommandLength := v }
  | _ => none

/-- The shell section with another value in a field. -/
def setShell? (s : ShellSettings) (name : String) (v : Json) : Option ShellSettings :=
  match name with
  | "username" => some { s with username := v }
  | "hostname" => some { s with hostname := v }
  | "default_shell" => some { s with defaultShell := v }
  | _ => none

/-- The filesystem section with another value in a field. -/
def setFiles? (s : FileSettings) (name : String) (v : Json) : Option FileSettings :=
  match name with
  | "directory_size" => some { s with directorySize := v }
  | "directory_permissions" => some { s with directoryPermissions := v }
  | "file_permissions" => some { s with filePermissions := v }
  | _ => none

/-- The logging section with another value in a field. -/
def setLogging? (s : LoggingSettings) (name : String) (v : Json) : Option LoggingSettings :=
  match name with
  | "level" => some { s with level := v }
  | "log_file" => some { s with logFile := v }
  | "console_output" => some { s with consoleOutput := v }
  | _ => none

/-- The configuration with another value in a field. -/
def setField? (c : Config) (part name : String) (v : Json) : Option Config :=
  match part with
  | "terminal" =>
    (c.terminal.get?.bind (setTerminal? · name v)).map (fun s => { c with terminal := .settings s })
  | "session" =>
    (c.session.get?.bind (setSession? · name v)).map (fun s => { c with session := .settings s })
  | "shell" =>
    (c.shell.get?.bind (setShell? · name v)).map (fun s => { c with shell := .settings s })
  | "filesystem" =>
    (c.files.get?.bind (setFiles? · name v)).map (fun s => { c with files := .settings s })
  | "logging" =>
    (c.logging.get?.bind (setLogging? · name v)).map (fun s => { c with logging := .settings s })
  | _ => none

/-- The configuration with another value under the names of a key, before validation. Only
sections and their fields can be replaced. -/
def replaceAt? (c : Config) (parts : List String) (v : Json) : Option Config :=
  match parts with
  | [part] => c.replaceSection? part v
  | [part, name] => c.setField? part name v
  | _ => none

/-- Why nothing can be replaced under a key: it names nothing, or what a value has by
itself. -/
def keyFault (c : Config) (key : String) : ConfigFault :=
  match c.lookup? (keyParts key) with
  | none => refuse ("Invalid configuration key: " ++ key) key
  | some _ => .readOnly

end Config

/-- The configuration in force. -/
structure ConfigStore where
  /-- The configuration that was loaded last. -/
  loaded : Option Config := none
deriving Repr, Inhabited

namespace ConfigStore

/-- The configuration in force: the loaded one or the settings to start from. -/
def inForce (s : ConfigStore) : Config := s.loaded.getD {}

/-- Whether a configuration was loaded, so that those who work with it share it. -/
def isLoaded (s : ConfigStore) : Bool := s.loaded.isSome

/-- Loads the configuration that a value gives. A refusal leaves the store as it is. -/
def loadJson (s : ConfigStore) (data : Json) : Except ConfigFault Unit × ConfigStore :=
  match Config.ofJson data with
  | .error e => (.error e, s)
  | .ok c => (.ok (), ⟨some c⟩)

/-- A source is refused with a message. -/
def refuseSource (text path : String) : ConfigFault := .refused (.load text (some path))

/-- Loads the configuration that a text writes, the text of a file with a name. -/
def loadText (s : ConfigStore) (path text : String) : Except ConfigFault Unit × ConfigStore :=
  let cs := unifyBreaks text.toList
  match Json.read cs with
  | .ok data => s.loadJson data
  | .error .tooManyDigits => (.error .tooManyDigits, s)
  | .error (.malformed reason position) =>
    (.error (refuseSource
      ("Invalid JSON in configuration file: " ++ Json.placedReason cs reason position) path), s)

/-- Loads the configuration from what there is under a name. -/
def load (s : ConfigStore) (path : String) (source : Source) :
    Except ConfigFault Unit × ConfigStore :=
  match source with
  | .missing => (.error (refuseSource ("Configuration file not found: " ++ path) path), s)
  | .directory name =>
    (.error (refuseSource
      ("Cannot read configuration file: [Errno 21] Is a directory: " ++ quoted name) path), s)
  | .file text => s.loadText path text

/-- What there is under a key, or a value to take instead. -/
def get (s : ConfigStore) (key : String) (default : Json) : Attribute :=
  (s.inForce.lookup? (keyParts key)).getD (.value default)

/-- Replaces the value under a key. -/
def set (s : ConfigStore) (key : String) (v : Json) : Except ConfigFault Unit × ConfigStore :=
  let c := s.inForce
  match c.replaceAt? (keyParts key) v with
  | none => (.error (c.keyFault key), ⟨some c⟩)
  | some c' =>
    match c'.validate with
    | .ok _ => (.ok (), ⟨some c'⟩)
    -- Only a refusal is undone.
    | .error (.refused e) => (.error (.refused e), ⟨some c⟩)
    | .error e => (.error e, ⟨some c'⟩)

/-- Drops the loaded configuration. -/
def reset (_ : ConfigStore) : ConfigStore := ⟨none⟩

end ConfigStore

end SimTerm
