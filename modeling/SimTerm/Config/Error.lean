import SimTerm.Json
/-!
# Configuration Errors

Why a configuration is refused: its source cannot be read or is no JSON, or a value is not
allowed. The error shows its number, its message and the key that it is about.

## Main definitions

* `ConfigError`: The errors.
* `ConfigError.message`: The line that shows an error.
* `ConfigFault`: All the ways in which work on a configuration ends early.
-/

namespace SimTerm

/-- The kinds of configuration errors. -/
inductive ConfigErrorKind where
  /-- An error of no particular kind. -/
  | general
  /-- The source is missing or cannot be read. -/
  | load
  /-- A value is not allowed. -/
  | validation
deriving Repr, DecidableEq

namespace ConfigErrorKind

/-- The name of the kind. -/
def name : ConfigErrorKind → String
  | .general => "ConfigException"
  | .load => "ConfigLoadError"
  | .validation => "ConfigValidationError"

/-- The number of the kind. -/
def code : ConfigErrorKind → Int
  | .general => 1000
  | .load => 1001
  | .validation => 1002

end ConfigErrorKind

/-- Why a configuration is refused. -/
structure ConfigError where
  /-- The kind of error. -/
  kind : ConfigErrorKind
  /-- What is wrong. -/
  text : String
  /-- The key that it is about, if any. -/
  key : Option String := none
  /-- The number of the error. -/
  code : Int := kind.code
  /-- Named details. -/
  context : List (String × Json) := []
deriving Repr

namespace ConfigError

/-- Adds a detail that is a text, unless it is missing or empty. -/
def addDetail (context : List (String × Json)) (name : String) (value : Option String) :
    List (String × Json) :=
  match value with
  | some v => if v.isEmpty then context else Fields.set context name (.str v)
  | none => context

/-- A value is not allowed. -/
def validation (text : String) (key : Option String) (context : List (String × Json) := []) :
    ConfigError :=
  { kind := .validation, text, key, context := addDetail context "key" key }

/-- A source is missing or cannot be read. -/
def load (text : String) (path : Option String) (context : List (String × Json) := []) :
    ConfigError :=
  { kind := .load, text, context := addDetail context "path" path }

/-- The line that shows an error. -/
def message (e : ConfigError) : String :=
  let base := "[Error " ++ toString e.code ++ "] " ++ e.text
  match e.key with
  | some key => if key.isEmpty then base else base ++ " (key=" ++ key ++ ")"
  | none => base

end ConfigError

/-- The ways in which work on a configuration ends early. -/
inductive ConfigFault where
  /-- The configuration is refused. -/
  | refused (e : ConfigError)
  /-- A section is needed where a plain value stands. -/
  | noSection
  /-- A cap is needed where another value stands. -/
  | noCap
  /-- What a value has by itself is not to be replaced. -/
  | readOnly
  /-- A whole number in the source has more digits than are converted. -/
  | tooManyDigits
  /-- A value that has to be shown has no text. -/
  | unwritable (u : Unwritable)
deriving Repr

end SimTerm
