import SimTerm.Json
/-!
# Command Errors

Why a command refuses to run. An error names the command, a reason and perhaps the operand
that the reason is about, and shows them on one line. A command that broke off inside has a
line of its own.

## Main definitions

* `CommandError`: The errors.
* `CommandError.message`: The line that shows an error.
* `CommandError.describe`: All parts of an error, for inspection.
-/

namespace SimTerm

/-- The kinds of command errors. -/
inductive CommandErrorKind where
  /-- An error of no particular kind. -/
  | general
  /-- A path, a workflow or a theme does not exist. -/
  | notFound
  /-- An operand is missing or malformed. -/
  | invalidArgument
  /-- A name is taken. -/
  | alreadyExists
  /-- The command broke off. -/
  | internal
deriving Repr, DecidableEq

namespace CommandErrorKind

/-- The name of the kind. -/
def name : CommandErrorKind → String
  | .general => "CommandException"
  | .notFound => "NotFoundError"
  | .invalidArgument => "InvalidArgumentError"
  | .alreadyExists => "AlreadyExistsError"
  | .internal => "InternalCommandError"

/-- The number of the kind. -/
def code : CommandErrorKind → Int
  | .general => 4000
  | .notFound => 4001
  | .invalidArgument => 4002
  | .alreadyExists => 4003
  | .internal => 4004

end CommandErrorKind

/-- Why a command refuses to run. -/
structure CommandError where
  /-- The kind of error. -/
  kind : CommandErrorKind
  /-- The command. -/
  command : String
  /-- The reason. -/
  reason : String
  /-- What the reason is about, if anything. -/
  operand : Option String := none
  /-- The number of the error. -/
  code : Int := kind.code
  /-- Named details. -/
  context : List (String × Json) := []
deriving Repr

namespace CommandError

/-- Something that a command needs does not exist. -/
def notFound (command operand : String) (reason : String := "No such file or directory") :
    CommandError :=
  { kind := .notFound, command, reason, operand := some operand }

/-- An operand is missing. -/
def invalid (command reason : String) : CommandError :=
  { kind := .invalidArgument, command, reason }

/-- An operand is malformed. -/
def invalidOperand (command reason operand : String) : CommandError :=
  { kind := .invalidArgument, command, reason, operand := some operand }

/-- A name is taken. -/
def alreadyExists (command operand : String) (reason : String := "File exists") :
    CommandError :=
  { kind := .alreadyExists, command, reason, operand := some operand }

/-- What a command that broke off is reported with. -/
def internalReason (command : String) : String := "Error executing " ++ command

/-- A command broke off. -/
def internal (command : String) : CommandError :=
  { kind := .internal, command, reason := internalReason command }

/-- The line that shows an error. -/
def message (e : CommandError) : String :=
  match e.kind, e.operand with
  | .internal, _ => e.reason
  | _, some operand => e.command ++ ": " ++ operand ++ ": " ++ e.reason
  | _, none => e.command ++ ": " ++ e.reason

/-- All parts of an error, for inspection. -/
def describe (e : CommandError) : String :=
  let operand :=
    match e.operand with
    | some o => quoted o
    | none => "None"
  e.kind.name ++ "(command=" ++ quoted e.command ++ ", operand=" ++ operand ++
    ", reason=" ++ quoted e.reason ++ ")"

end CommandError

end SimTerm
