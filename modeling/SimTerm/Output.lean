import SimTerm.Bounded
import SimTerm.Json
/-!
# Output Lines

The lines that a session shows. Lines are numbered through in the order in which they are
made, and a log keeps the most recent ones up to a cap. When a line was made is nowhere asked
for, and it is not kept here.

## Main definitions

* `LineKind`, `Line`: What a line shows and where it comes from.
* `makeLines`: Numbers texts through.
* `OutputLog`: The kept lines.
-/

namespace SimTerm

/-- Where a line comes from. -/
inductive LineKind where
  /-- The command as it was entered. -/
  | command
  /-- What a command answered. -/
  | output
  /-- Why a command failed. -/
  | error
deriving Repr, DecidableEq

namespace LineKind

/-- The name of a kind. -/
def name : LineKind → String
  | .command => "command"
  | .output => "output"
  | .error => "error"

/-- The kind with a name. -/
def ofName? (s : String) : Option LineKind :=
  [command, output, error].find? (fun k => k.name == s)

end LineKind

/-- One line of output. -/
structure Line where
  /-- Where it comes from. -/
  kind : LineKind
  /-- Which line of the session it is, from one. -/
  number : Nat
  /-- What it shows. -/
  text : Json
deriving Repr

namespace Line

/-- The name of a line, of which no other line of the session has the same. -/
def id (l : Line) : String := l.kind.name ++ "-" ++ toString l.number

end Line

/-- Lines of one kind from a number on. -/
def makeLines (kind : LineKind) (start : Nat) : List Json → List Line
  | [] => []
  | text :: rest => ⟨kind, start, text⟩ :: makeLines kind (start + 1) rest

/-- The most recent lines, oldest first. -/
structure OutputLog where
  /-- How many lines are kept. -/
  capacity : Nat
  /-- The kept lines, oldest first. -/
  lines : List Line := []
deriving Repr

namespace OutputLog

/-- An empty log with a cap. -/
def ofCap (n : Int) : Except CapFault OutputLog :=
  match checkCap n with
  | .error e => .error e
  | .ok capacity => .ok { capacity }

/-- Appends lines and forgets the oldest ones beyond the cap. -/
def extend (o : OutputLog) (lines : List Line) : OutputLog :=
  { o with lines := keepLast o.capacity (o.lines ++ lines) }

/-- Lines that fit an empty log are all kept. -/
theorem extend_lines (o : OutputLog) (lines : List Line) (ho : o.lines = [])
    (h : lines.length ≤ o.capacity) : (o.extend lines).lines = lines := by
  rw [extend, ho, List.nil_append]
  exact keepLast_of_length_le _ _ h

/-- Forgets all lines. -/
def clear (o : OutputLog) : OutputLog := { o with lines := [] }

end OutputLog

end SimTerm
