import SimTerm.Double
import SimTerm.Text.Integer
import SimTerm.Text.Quoted
/-!
# JSON Values

Free-form values: what a configuration file may hold at any place, and what travels unchanged
from a setting to the line that shows it. An object keeps its fields in the order in which
their names first appeared.

Not every value can be shown. A whole number with too many digits has no text, and neither has
a value with collections inside collections beyond a bound. The first such place ends the
writing.

## Main definitions

* `Json`: The values.
* `Unwritable`: Why a value has no text.
* `Json.literal`: A value as messages show it, with texts between quotes.
* `Json.display`: A value as lines show it: a text as it is, any other value as its literal.
* `Json.isTruthy`: Whether a value switches something on.
* `Fields.get?`, `Fields.set`: Look-up and update by name in insertion order.
-/

namespace SimTerm

/-- A free-form value. -/
inductive Json where
  /-- The absent value. -/
  | null
  /-- A truth value. -/
  | bool (b : Bool)
  /-- A whole number of any size. -/
  | int (n : Int)
  /-- A number with a fraction or an exponent. -/
  | float (x : Double)
  /-- A text. -/
  | str (s : String)
  /-- A list of values. -/
  | arr (items : List Json)
  /-- Named values in insertion order. -/
  | obj (fields : List (String × Json))
deriving Repr, BEq

instance : Inhabited Json := ⟨.null⟩

instance : Coe String Json := ⟨.str⟩

namespace Fields

/-- The value under a name. -/
def get? {α : Type} (fields : List (String × α)) (name : String) : Option α :=
  (fields.find? (fun f => f.1 == name)).map Prod.snd

/-- Stores a value under a name: in the name's place if it has one, else at the end. -/
def set {α : Type} (fields : List (String × α)) (name : String) (value : α) :
    List (String × α) :=
  match fields with
  | [] => [(name, value)]
  | f :: rest => if f.1 == name then (name, value) :: rest else f :: set rest name value

/-- The fields that result from storing pairs one after another. -/
def ofPairs {α : Type} (pairs : List (String × α)) : List (String × α) :=
  pairs.foldl (fun fields p => set fields p.1 p.2) []

/-- The names in insertion order. -/
def names {α : Type} (fields : List (String × α)) : List String := fields.map Prod.fst

end Fields

/-- Why a value has no text. -/
inductive Unwritable where
  /-- A whole number in it has more digits than are written. -/
  | tooManyDigits
  /-- It has too many levels. -/
  | tooDeep
deriving Repr, DecidableEq

namespace Json

/-- Texts joined by a separator. -/
def commaJoin (items : List String) : String := String.intercalate ", " items

/-- The most levels of a value that is written, itself and what stands in its innermost
collection among them. It is what a caller at the outermost level has room for; a caller that
is deep inside other calls itself has less. -/
def maxLevels : Nat := 990

mutual

/-- A value as messages show it, with texts between quotes, where there is room for some
levels. -/
def literalIn : Json → Nat → Except Unwritable String
  | _, 0 => .error .tooDeep
  | .null, _ + 1 => .ok "None"
  | .bool b, _ + 1 => .ok (if b then "True" else "False")
  | .int n, _ + 1 =>
    match Text.writeInteger? n with
    | some digits => .ok digits
    | none => .error .tooManyDigits
  | .float x, _ + 1 => .ok x.text
  | .str s, _ + 1 => .ok (quoted s)
  | .arr items, room + 1 =>
    (literalsIn items room).map (fun ls => "[" ++ commaJoin ls ++ "]")
  | .obj fields, room + 1 =>
    (fieldLiteralsIn fields room).map (fun ls => "\x7b" ++ commaJoin ls ++ "\x7d")

/-- The literals of some values. -/
def literalsIn : List Json → Nat → Except Unwritable (List String)
  | [], _ => .ok []
  | v :: vs, room =>
    (literalIn v room).bind (fun l => (literalsIn vs room).map (l :: ·))

/-- The literals of some named values. -/
def fieldLiteralsIn : List (String × Json) → Nat → Except Unwritable (List String)
  | [], _ => .ok []
  | (name, v) :: vs, room =>
    (literalIn v room).bind (fun l =>
      (fieldLiteralsIn vs room).map ((quoted name ++ ": " ++ l) :: ·))

end

/-- A value as messages show it, with texts between quotes. -/
def literal (v : Json) : Except Unwritable String := v.literalIn maxLevels

/-- A value as lines show it: a text as it is, any other value as its literal. -/
def display : Json → Except Unwritable String
  | .str s => .ok s
  | v => literal v

/-- Whether a value switches something on: anything but absence, falsity, zero and
emptiness. -/
def isTruthy : Json → Bool
  | .null => false
  | .bool b => b
  | .int n => n != 0
  | .float (.finite _ m _) => m != 0
  | .float _ => true
  | .str s => !s.isEmpty
  | .arr items => !items.isEmpty
  | .obj fields => !fields.isEmpty

end Json

end SimTerm
