import SimTerm.Text.Blank
import SimTerm.Yaml.Document
/-!
# Fields of Records

Records are written as YAML mappings. A field holds a scalar, which is taken as the text that
it is shown with, or a list of such texts. A record is taken whole or refused with a reason.

## Main definitions

* `Schema.Reason`: Why a record is refused.
* `Schema.Fault`: Why no record comes of a text.
* `Schema.valueOf`, `Schema.entriesOf`: The value that a text writes, and the entries of a mapping.
* `Schema.scalar`, `Schema.required`: The text in a field.
* `Schema.texts`: The texts in a field.
-/

namespace SimTerm

namespace Schema

open Yaml (Value)

/-- The entries of a mapping. -/
abbrev Entries := List (Value × Value)

/-- Why a record is refused. -/
inductive Reason where
  /-- The text is no YAML. -/
  | malformed (message : String)
  /-- The text writes no mapping. -/
  | noMapping
  /-- A field that has to be there is absent. -/
  | missing (key : String)
  /-- A field that has to hold something is blank. -/
  | blank (key : String)
  /-- A field that has to hold a scalar holds a list or a mapping. -/
  | noScalar (key : String)
  /-- A field that has to hold a list of texts holds something else. -/
  | noTexts (key : String)
  /-- Some names are no names of shells. -/
  | unknownShells (names : List String)
  /-- The arguments are no list. -/
  | argumentsNoList
  /-- An argument is no mapping. -/
  | argumentNoMapping
  /-- A group of colours is no mapping. -/
  | groupNoMapping (group : String)
deriving Repr, DecidableEq

namespace Reason

/-- What a reason says. -/
def message : Reason → String
  | .malformed m => "invalid YAML: " ++ m
  | .noMapping => "document is not a mapping"
  | .missing key => "missing field: " ++ key
  | .blank key => "empty field: " ++ key
  | .noScalar key => "field " ++ key ++ " must be a scalar"
  | .noTexts key => "field " ++ key ++ " must be a list of strings"
  | .unknownShells names => "unknown shells: " ++ String.intercalate ", " names
  | .argumentsNoList => "arguments must be a list"
  | .argumentNoMapping => "each argument must be a mapping"
  | .groupNoMapping group => "terminal_colors." ++ group ++ " must be a mapping"

end Reason

/-- Why no record comes of a text. -/
inductive Fault where
  /-- The record is refused. -/
  | refused (r : Reason)
  /-- The reading breaks off. -/
  | halted (h : Yaml.Halt)
deriving Repr, DecidableEq

/-- The entries of the mapping that a value is. -/
def entriesOf : Value → Except Fault Entries
  | .mapping _ entries => .ok entries
  | _ => .error (.refused .noMapping)

/-- The value that a text writes. -/
def valueOf (text : String) : Except Fault Value :=
  match Value.ofText text.toList with
  | .ok v => .ok v
  | .error (.halted h) => .error (.halted h)
  | .error f => .error (.refused (.malformed ((f.message? text.toList).getD "")))

/-- How the reading breaks off at a value that has no text. -/
def haltOf : Unwritable → Yaml.Halt
  | .tooManyDigits => .conversion .badNumber
  | .tooDeep => .tooDeep

/-- What is shown, if it can be. -/
def shown {α : Type} (text : Except Unwritable α) : Except Fault α :=
  text.mapError (fun u => .halted (haltOf u))

/-- What a field holds; an absent value counts as no field. -/
def field? (data : Entries) (key : String) : Option Value :=
  match Value.lookup? data key with
  | some .null => none
  | v => v

/-- The text of a scalar under a key. -/
def scalarText (key : String) (v : Value) : Except Fault String :=
  if v.isListOrMapping then .error (.refused (.noScalar key)) else shown v.display

/-- The text in a field that may be absent. -/
def scalar (data : Entries) (key : String) : Except Fault (Option String) :=
  match field? data key with
  | none => .ok none
  | some v => (scalarText key v).map some

/-- The text in a field that has to be there and must not be blank. -/
def required (data : Entries) (key : String) : Except Fault String :=
  match field? data key with
  | none => .error (.refused (.missing key))
  | some v =>
    match scalarText key v with
    | .error e => .error e
    | .ok text =>
      if (trimmed text).isEmpty then .error (.refused (.blank key)) else .ok text

/-- The texts between commas, without the blanks around them; blank ones do not count. -/
def commaTexts (s : String) : List String :=
  ((s.toList.splitOn ',').map (fun cs => String.ofList (Text.trim cs))).filter (· != "")

/-- The texts that a value writes: between the commas of a text, or the items of a list. -/
def textsOf (key : String) : Value → Except Fault (List String)
  | .text s => .ok (commaTexts s)
  | .sequence _ items =>
    if items.any Value.isListOrMapping then .error (.refused (.noTexts key))
    else items.mapM (fun v => shown v.display)
  | .pairs node entries => shown (Value.pairTexts node entries)
  | _ => .error (.refused (.noTexts key))

/-- The texts in a field; none if it is absent. -/
def texts (data : Entries) (key : String) : Except Fault (List String) :=
  match field? data key with
  | none => .ok []
  | some v => textsOf key v

end Schema

end SimTerm
