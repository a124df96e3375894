import SimTerm.CommandError
import SimTerm.Config.Error
/-!
# Failures by Name

A failure of a command or of the configuration, made from the name of its kind and from named
details. Each kind knows which details it takes and which of them it cannot do without. A detail
without a text counts as missing.

## Main definitions

* `Failure`: An error of either family.
* `Failure.ofDetails?`: The failure of a named kind with named details.
-/

namespace SimTerm

/-- An error of a command or of the configuration. -/
inductive Failure where
  /-- An error of a command. -/
  | command (e : CommandError)
  /-- An error of the configuration. -/
  | config (e : ConfigError)
deriving Repr

namespace Failure

/-- Named details. -/
abbrev Details := List (String × Json)

/-- Whether the details of a kind are among those that it takes. -/
def takes (names : List String) (details : Details) : Bool :=
  details.all (fun d => names.contains d.1)

/-- A detail that has to be there, as a text. -/
def needed? (details : Details) (name : String) : Option String :=
  (Fields.get? details name).bind (fun v => v.display.toOption)

/-- A detail that may be absent. -/
def optional (details : Details) (name : String) : Option String :=
  match Fields.get? details name with
  | none => none
  | some .null => none
  | some v => v.display.toOption

/-- The named values in the context; none if there is no context. -/
def contextOf (details : Details) : List (String × Json) :=
  match Fields.get? details "context" with
  | some (.obj fields) => fields
  | _ => []

/-- The number of an error; without one, or with zero, that of its kind. -/
def codeOf (details : Details) (standard : Int) : Int :=
  match Fields.get? details "error_code" with
  | some (.int 0) => standard
  | some (.int n) => n
  | _ => standard

/-- A reason, or the usual one of its kind. -/
def reasonOf (details : Details) (usual : String) : String :=
  (needed? details "reason").getD usual

/-- The command error of a named kind. -/
def commandError? (kind : String) (d : Details) : Option CommandError := do
  let command ← needed? d "command"
  let context := contextOf d
  match kind with
  | "CommandException" =>
    if !takes ["command", "reason", "operand", "error_code", "context"] d then none
    let reason ← needed? d "reason"
    let kind : CommandErrorKind := .general
    return { kind, command, reason, operand := optional d "operand",
             code := codeOf d kind.code, context }
  | "NotFoundError" =>
    if !takes ["command", "operand", "reason", "context"] d then none
    let usual := (CommandError.notFound command "").reason
    return { kind := .notFound, command, reason := reasonOf d usual,
             operand := optional d "operand", context }
  | "InvalidArgumentError" =>
    if !takes ["command", "reason", "operand", "context"] d then none
    let reason ← needed? d "reason"
    return { CommandError.invalid command reason with operand := optional d "operand", context }
  | "AlreadyExistsError" =>
    if !takes ["command", "operand", "reason", "context"] d then none
    let _ ← needed? d "operand"
    let usual := (CommandError.alreadyExists command "").reason
    return { kind := .alreadyExists, command, reason := reasonOf d usual,
             operand := optional d "operand", context }
  | "InternalCommandError" =>
    if !takes ["command", "cause", "context"] d then none
    return { CommandError.internal command with context }
  | _ => none

/-- The configuration error of a named kind. -/
def configError? (kind : String) (d : Details) : Option ConfigError := do
  let text ← needed? d "message"
  let context := contextOf d
  match kind with
  | "ConfigException" =>
    if !takes ["message", "key", "error_code", "context"] d then none
    let key := optional d "key"
    let kind : ConfigErrorKind := .general
    return { kind, text, key, code := codeOf d kind.code,
             context := ConfigError.addDetail context "key" key }
  | "ConfigLoadError" =>
    if !takes ["message", "path", "context"] d then none
    return ConfigError.load text (optional d "path") context
  | "ConfigValidationError" =>
    if !takes ["message", "key", "context"] d then none
    return ConfigError.validation text (optional d "key") context
  | _ => none

/-- The failure of a named kind with named details; nothing if a detail is missing or is not
one that the kind takes. -/
def ofDetails? (kind : String) (details : Details) : Option Failure :=
  ((commandError? kind details).map .command).or ((configError? kind details).map .config)

end Failure

end SimTerm
