import SimTerm.Text.Quoted
/-!
# Places and Problems in YAML Texts

A problem in a YAML text says what is wrong and where, perhaps with the context it was found in
and the place where that context starts. A place is shown with an excerpt of its line.

## Main definitions

* `Yaml.Mark`: A place in a text.
* `Yaml.Mark.describe`: A place with an excerpt of its line.
* `Yaml.Problem`: What is wrong with a text.
* `Yaml.Halt`: Why the reading of a text breaks off.
* `Yaml.Fault`: Every way in which reading a text ends early.
* `Yaml.Fault.message?`: What is shown for texts that are no YAML.
-/

namespace SimTerm

namespace Yaml

/-- A place in a text. -/
structure Mark where
  /-- The number of characters before it. -/
  index : Nat
  /-- The number of lines before it. -/
  line : Nat
  /-- The number of characters before it in its line. -/
  column : Nat
deriving Repr, DecidableEq, Inhabited

/-- Whether a character ends a line. -/
def isBreak (c : Char) : Bool :=
  c == '\n' || c == '\r' || c.toNat == 0x85 || c.toNat == 0x2028 || c.toNat == 0x2029

namespace Mark

/-- How many characters of an excerpt stand on each side of its place at most. -/
def reach : Nat := 36

/-- The part of an excerpt before the place: whether it was cut, and its characters. -/
def excerptBefore (text : List Char) (m : Mark) : Bool × List Char :=
  let all := ((text.take m.index).reverse.takeWhile (fun c => !isBreak c))
  if reach < all.length then (true, (all.take (reach - 4)).reverse) else (false, all.reverse)

/-- The part of an excerpt from the place on: its characters, and whether it was cut. -/
def excerptAfter (text : List Char) (m : Mark) : List Char × Bool :=
  let all := (text.drop m.index).takeWhile (fun c => !isBreak c)
  if reach < all.length then (all.take (reach - 4), true) else (all, false)

/-- A place with an excerpt of its line. -/
def describe (text : List Char) (m : Mark) : String :=
  let (cutBefore, before) := excerptBefore text m
  let (after, cutAfter) := excerptAfter text m
  let dots := " ... ".toList
  let head := if cutBefore then dots else []
  let tail := if cutAfter then dots else []
  let shift := List.replicate (4 + before.length + head.length) ' '
  "  in \"<unicode string>\", line " ++ toString (m.line + 1) ++ ", column " ++
    toString (m.column + 1) ++ ":\n" ++
    String.ofList
      (List.replicate 4 ' ' ++ head ++ before ++ after ++ tail ++ '\n' :: shift ++ ['^'])

end Mark

/-- What is wrong with a text. -/
structure Problem where
  /-- What was being read. -/
  context : Option String := none
  /-- Where that starts. -/
  contextMark : Option Mark := none
  /-- What is wrong. -/
  text : String
  /-- Where it is wrong. -/
  mark : Option Mark := none
deriving Repr, DecidableEq

namespace Problem

/-- A problem at a place. -/
def at_ (text : String) (mark : Mark) : Problem := { text, mark := some mark }

/-- A problem at a place, found while something was read that starts at another place. -/
def within (context : String) (start : Mark) (text : String) (mark : Mark) : Problem :=
  { context := some context, contextMark := some start, text, mark := some mark }

/-- A problem at a place, found while something was read. -/
def during (context text : String) (mark : Mark) : Problem :=
  { context := some context, text, mark := some mark }

/-- What is shown for a problem in a text: the context and its place, unless that is the place
of the problem, then the problem and its place. -/
def message (source : List Char) (p : Problem) : String :=
  let contextMark :=
    match p.contextMark, p.mark with
    | some c, some m =>
      if c.line == m.line && c.column == m.column then [] else [c.describe source]
    | some c, none => [c.describe source]
    | none, _ => []
  let mark :=
    match p.mark with
    | some m => [m.describe source]
    | none => []
  String.intercalate "\n" (p.context.toList ++ contextMark ++ [p.text] ++ mark)

end Problem

/-- Why a scalar cannot be turned into the value that its tag asks for. -/
inductive Conversion where
  /-- The text is no number, no date or no time of the kind, or a number with too many digits. -/
  | badNumber
  /-- The text is no truth value. -/
  | unknownWord
  /-- The text does not look like a time. -/
  | noTimestamp
  /-- The text of a number is empty. -/
  | emptyNumber
  /-- A number is too large for its place. -/
  | tooLarge
  /-- A mapping stands where a time is asked for. -/
  | wrongKind
deriving Repr, DecidableEq

/-- Why the reading of a text breaks off. -/
inductive Halt where
  /-- A scalar cannot be turned into the value that its tag asks for. -/
  | conversion (c : Conversion)
  /-- Something is nested deeper than there are levels for it. -/
  | tooDeep
deriving Repr, DecidableEq

/-- Every way in which reading a text ends early. -/
inductive Fault where
  /-- The text is no YAML, or its values break the rules of their tags. -/
  | malformed (p : Problem)
  /-- The text holds a character that YAML does not allow. -/
  | unprintable (c : Char) (position : Nat)
  /-- The reading breaks off. -/
  | halted (h : Halt)
deriving Repr, DecidableEq

namespace Fault

/-- What is shown for a text that is no YAML; nothing if its reading breaks off. -/
def message? (source : List Char) : Fault → Option String
  | .malformed p => some (p.message source)
  | .unprintable c position =>
    some ("unacceptable character #x" ++ String.ofList (Text.hexText 4 c.toNat) ++
      ": special characters are not allowed\n  in \"<unicode string>\", position " ++
      toString position)
  | .halted _ => none

end Fault

end Yaml

end SimTerm
