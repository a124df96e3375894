import SimTerm.Bounded
import SimTerm.Text.Blank
/-!
# Command History

The commands that were entered, oldest first, up to a cap, with a cursor for recalling them.
A blank command and an immediate repetition are not kept.

## Main definitions

* `History`: The commands and the cursor.
* `History.push`: Enters a command.
* `History.previous`, `History.next`: Recall earlier and later commands.
-/

namespace SimTerm

/-- The commands that were entered. -/
structure History where
  /-- How many commands are kept. -/
  capacity : Nat
  /-- The kept commands, oldest first. -/
  entries : List String := []
  /-- How many places before the newest command recall stands; nothing when not recalling. -/
  cursor : Option Nat := none
deriving Repr, DecidableEq

namespace History

/-- An empty history with a cap. -/
def ofCap (n : Int) : Except CapFault History :=
  match checkCap n with
  | .error e => .error e
  | .ok capacity => .ok { capacity }

/-- Stops recalling. -/
def resetCursor (h : History) : History := { h with cursor := none }

/-- Enters a command without the blanks around it. Says whether it was kept. -/
def push (h : History) (command : String) : Bool × History :=
  let c := trimmed command
  if c.isEmpty || h.entries.getLast? == some c then (false, h.resetCursor)
  else (true, { h with entries := keepLast h.capacity (h.entries ++ [c]), cursor := none })

/-- The command a number of places before the newest one. -/
def recalled (h : History) (places : Nat) : String := (h.entries.reverse[places]?).getD ""

/-- Goes back one command, and stays at the oldest one. -/
def previous (h : History) : Option String × History :=
  if h.entries.isEmpty then (none, h)
  else
    let places := match h.cursor with
      | none => 0
      | some k => min (k + 1) (h.entries.length - 1)
    (some (h.recalled places), { h with cursor := some places })

/-- Goes forward one command; past the newest one there is the empty line. -/
def next (h : History) : String × History :=
  match h.cursor with
  | some (k + 1) => (h.recalled k, { h with cursor := some k })
  | _ => ("", { h with cursor := none })

end History

end SimTerm
