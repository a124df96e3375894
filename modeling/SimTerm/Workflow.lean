import SimTerm.Json
import SimTerm.Schema
import SimTerm.Shell.Persona
import SimTerm.Text.Lowercase
import SimTerm.Workflow.Template
/-!
# Workflows

A workflow is a named command with placeholders. Each placeholder is filled with a value given
for its name or else with the default of the argument that is declared for it.

## Main definitions

* `Workflow`: The record.
* `Workflow.render`: The command with its placeholders filled.
* `Workflow.ofValue`, `Workflow.ofText`: The record that a document writes.
-/

namespace SimTerm

/-- A declared argument of a workflow. -/
structure WorkflowArgument where
  /-- The name of the placeholder. -/
  name : String
  /-- What it is for. -/
  description : Option String := none
  /-- What fills it when no value is given. -/
  defaultValue : Option String := none
deriving Repr, DecidableEq

/-- A named command with placeholders. -/
structure Workflow where
  /-- The name that it is found by. -/
  name : String
  /-- The command. -/
  command : String
  /-- What it does. -/
  description : Option String := none
  /-- Words that it is found by. -/
  tags : List String := []
  /-- The shells that it is for. -/
  shells : List String := []
  /-- The declared arguments. -/
  arguments : List WorkflowArgument := []
  /-- Where it comes from. -/
  sourceUrl : Option String := none
  /-- Who wrote it. -/
  author : Option String := none
  /-- Where its author is found. -/
  authorUrl : Option String := none
deriving Repr, DecidableEq, Inhabited

namespace Workflow

/-- The first argument with a name. -/
def argument? (w : Workflow) (name : String) : Option WorkflowArgument :=
  w.arguments.find? (fun a => a.name == name)

/-- What fills a placeholder: a value given for the name, or the default of the argument. -/
def filling? (w : Workflow) (values : List (String × String)) (name : String) :
    Option String :=
  (Fields.get? values name).or ((w.argument? name).bind WorkflowArgument.defaultValue)

/-- A part of the command as it is rendered. A placeholder that nothing fills stays. -/
def renderPart (w : Workflow) (values : List (String × String)) (p : TemplatePart) :
    List Char :=
  match p with
  | .character c => [c]
  | .placeholder inner =>
    match w.filling? values (String.ofList (Text.trim inner)) with
    | some s => s.toList
    | none => p.source

/-- The command with its placeholders filled, all at once. -/
def render (w : Workflow) (values : List (String × String)) : String :=
  String.ofList ((TemplatePart.ofText w.command.toList).flatMap (w.renderPart values))

open Schema Yaml

/-- The shells in a document, in small letters; all of them have to be known. -/
def shellsOf (data : Entries) : Except Schema.Fault (List String) :=
  match texts data "shells" with
  | .error e => .error e
  | .ok names =>
    let names := names.map lowered
    match names.filter (fun n => !Persona.names.contains n) with
    | [] => .ok names
    | unknown => .error (.refused (.unknownShells unknown))

/-- A declared argument in a document. -/
def argumentOf : Value → Except Schema.Fault WorkflowArgument
  | .mapping _ entry => do
    let name ← required entry "name"
    let description ← scalar entry "description"
    let defaultValue ← scalar entry "default_value"
    return { name, description, defaultValue }
  | _ => .error (.refused .argumentNoMapping)

/-- What a document says about arguments, under either of two keys. -/
def argumentsField? (data : Entries) : Option Value :=
  match (Value.lookup? data "arguments").or (Value.lookup? data "args") with
  | some .null => none
  | v => v

/-- The declared arguments in a document. -/
def argumentsOf (data : Entries) : Except Schema.Fault (List WorkflowArgument) :=
  match argumentsField? data with
  | none => .ok []
  | some (.sequence _ items) => items.mapM argumentOf
  | some (.pairs _ []) => .ok []
  | some (.pairs ..) => .error (.refused .argumentNoMapping)
  | some _ => .error (.refused .argumentsNoList)

/-- The record that the entries of a document write. -/
def ofEntries (data : Entries) : Except Schema.Fault Workflow := do
  let shells ← shellsOf data
  let name ← required data "name"
  let command ← required data "command"
  let description ← scalar data "description"
  let tags ← texts data "tags"
  let arguments ← argumentsOf data
  let sourceUrl ← scalar data "source_url"
  let author ← scalar data "author"
  let authorUrl ← scalar data "author_url"
  return { name, command, description, tags, shells, arguments, sourceUrl, author, authorUrl }

/-- The record that a value writes. -/
def ofValue (v : Value) : Except Schema.Fault Workflow := entriesOf v >>= ofEntries

/-- The record that a text writes. -/
def ofText (text : String) : Except Schema.Fault Workflow := valueOf text >>= ofValue

end Workflow

end SimTerm
