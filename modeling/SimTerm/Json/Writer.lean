import SimTerm.Json
import SimTerm.Text.CodeUnit
/-!
# Writing JSON

A value as a JSON text on one line. Characters outside of printable ASCII are written by their
code units, and the quote and the backslash are escaped.

## Main definitions

* `Json.text`: The JSON text of a value.
-/

namespace SimTerm

namespace Json

/-- One character of a JSON string. -/
def stringChar (c : Char) : List Char :=
  if c == '"' || c == '\\' then ['\\', c]
  else if 0x20 ≤ c.toNat ∧ c.toNat < 0x7F then [c]
  else (Text.codeUnits c).flatMap (fun n => '\\' :: 'u' :: Text.hexText 4 n)

/-- A JSON string. -/
def stringText (s : String) : String :=
  String.ofList ('"' :: s.toList.flatMap stringChar ++ ['"'])

/-- A JSON number with a fraction, or one of the three number words. -/
def floatText : Double → String
  | .nan => "NaN"
  | .infinite n => if n then "-Infinity" else "Infinity"
  | x => x.text

mutual

/-- The JSON text of a value. -/
def text : Json → String
  | .null => "null"
  | .bool b => if b then "true" else "false"
  | .int n => toString n
  | .float x => floatText x
  | .str s => stringText s
  | .arr items => "[" ++ commaJoin (texts items) ++ "]"
  | .obj fields => "\x7b" ++ commaJoin (fieldTexts fields) ++ "\x7d"

/-- The JSON texts of some values. -/
def texts : List Json → List String
  | [] => []
  | v :: vs => text v :: texts vs

/-- The JSON texts of some named values. -/
def fieldTexts : List (String × Json) → List String
  | [] => []
  | (name, v) :: vs => (stringText name ++ ": " ++ text v) :: fieldTexts vs

end

end Json

end SimTerm
