import SimTerm.Text.Blank
import SimTerm.Text.Lowercase
/-!
# Command Lines

A line of input is cut into words at blanks. The first word in small letters is the name of
the command and the other words are its arguments. There are no quotes.

## Main definitions

* `Command`: A line of input in its parts.
* `Command.parse`: The parts of a line.
* `Command.arg`: An argument, or something in its place.
-/

namespace SimTerm

/-- A line of input in its parts. -/
structure Command where
  /-- The first word in small letters; empty for a blank line. -/
  name : String
  /-- The other words. -/
  args : List String := []
  /-- The whole line without the blanks around it. -/
  line : String := ""
  /-- What follows the first word and the blanks after it. -/
  remainder : String := ""
deriving Repr, DecidableEq

namespace Command

/-- The parts of a line. -/
def parse (raw : String) : Command :=
  let line := Text.trim raw.toList
  match Text.words line with
  | [] => { name := "", line := String.ofList line }
  | first :: rest =>
    { name := String.ofList (Text.lower first)
      args := rest.map String.ofList
      line := String.ofList line
      remainder := String.ofList (Text.afterFirstWord line) }

/-- The argument at a place from zero, or something in its place. -/
def arg (c : Command) (place : Int) (default : String) : String :=
  match place with
  | .ofNat n => c.args.getD n default
  | .negSucc _ => default

/-- The first argument, unless there is none or it is empty. -/
def first? (c : Command) : Option String := c.args.head?.filter (fun a => !a.isEmpty)

end Command

end SimTerm
