import SimTerm.Schema
/-!
# Themes

A theme has an accent, a background and a foreground, and two palettes of eight colours each.

## Main definitions

* `Colour`: The eight colours.
* `Palette`: What each colour looks like.
* `Theme`: The record.
* `Theme.ofValue`, `Theme.ofText`: The record that a document writes.
-/

namespace SimTerm

/-- The colours of a palette. -/
inductive Colour where
  | black
  | red
  | green
  | yellow
  | blue
  | magenta
  | cyan
  | white
deriving Repr, DecidableEq

namespace Colour

/-- All colours in order. -/
def all : List Colour := [black, red, green, yellow, blue, magenta, cyan, white]

/-- The name of a colour. -/
def name : Colour → String
  | .black => "black"
  | .red => "red"
  | .green => "green"
  | .yellow => "yellow"
  | .blue => "blue"
  | .magenta => "magenta"
  | .cyan => "cyan"
  | .white => "white"

end Colour

/-- What each colour looks like. -/
structure Palette where
  /-- The look of black. -/
  black : String
  /-- The look of red. -/
  red : String
  /-- The look of green. -/
  green : String
  /-- The look of yellow. -/
  yellow : String
  /-- The look of blue. -/
  blue : String
  /-- The look of magenta. -/
  magenta : String
  /-- The look of cyan. -/
  cyan : String
  /-- The look of white. -/
  white : String
deriving Repr, DecidableEq, Inhabited

namespace Palette

/-- The look of a colour. -/
def get (p : Palette) : Colour → String
  | .black => p.black
  | .red => p.red
  | .green => p.green
  | .yellow => p.yellow
  | .blue => p.blue
  | .magenta => p.magenta
  | .cyan => p.cyan
  | .white => p.white

/-- The looks by name, in order. -/
def toPairs (p : Palette) : List (String × String) := Colour.all.map (fun c => (c.name, p.get c))

end Palette

/-- A theme. -/
structure Theme where
  /-- The accent. -/
  accent : String
  /-- The background. -/
  background : String
  /-- The foreground. -/
  foreground : String
  /-- How details are drawn. -/
  details : String := "darker"
  /-- The normal palette. -/
  normal : Palette
  /-- The bright palette. -/
  bright : Palette
deriving Repr, DecidableEq, Inhabited

namespace Theme

open Schema Yaml

/-- A palette with the looks that some entries give for its colours. -/
def paletteOfEntries (data : Entries) : Except Schema.Fault Palette := do
  let look (c : Colour) : Except Schema.Fault String := required data c.name
  let black ← look .black
  let red ← look .red
  let green ← look .green
  let yellow ← look .yellow
  let blue ← look .blue
  let magenta ← look .magenta
  let cyan ← look .cyan
  let white ← look .white
  return { black, red, green, yellow, blue, magenta, cyan, white }

/-- The palette of a group of colours. -/
def paletteOf (groups : Entries) (group : String) : Except Schema.Fault Palette :=
  match Value.lookup? groups group with
  | some (.mapping _ data) => paletteOfEntries data
  | _ => .error (.refused (.groupNoMapping group))

/-- How details are drawn; nothing and the empty text stand for darker. -/
def detailsOf (text : Option String) : String :=
  match text with
  | none => "darker"
  | some s => if s.isEmpty then "darker" else s

/-- The record that the entries of a document write. -/
def ofEntries (data : Entries) : Except Schema.Fault Theme :=
  match Value.lookup? data "terminal_colors" with
  | some (.mapping _ groups) => do
    let accent ← required data "accent"
    let background ← required data "background"
    let foreground ← required data "foreground"
    let details ← scalar data "details"
    let normal ← paletteOf groups "normal"
    let bright ← paletteOf groups "bright"
    return { accent, background, foreground, details := detailsOf details, normal, bright }
  | _ => .error (.refused (.missing "terminal_colors"))

/-- The record that a value writes. -/
def ofValue (v : Value) : Except Schema.Fault Theme := entriesOf v >>= ofEntries

/-- The record that a text writes. -/
def ofText (text : String) : Except Schema.Fault Theme := valueOf text >>= ofValue

end Theme

end SimTerm
