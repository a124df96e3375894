import SimTerm.Text.Integer
/-!
# Text Styles

The attributes of a run of text: five flags and two colours. A style is set by numbered codes,
of which zero clears everything, and can be written as one sequence of codes that first clears
and then sets.

## Main definitions

* `palette`: The sixteen colours by their foreground codes.
* `Style`: The attributes.
* `Style.applyCode`, `Style.applyCodes`: The effect of codes.
* `Style.sequence`: The control sequence that sets a style.
* `Style.effectiveColours`: The colours to paint with.
-/

namespace SimTerm

/-- The colours by their foreground codes, eight normal ones and eight bright ones. A
background code is ten more. -/
def palette : List (Nat × String) := [
  (30, "#000000"), (31, "#ff0000"), (32, "#00ff00"), (33, "#ffff00"),
  (34, "#0000ff"), (35, "#ff00ff"), (36, "#00ffff"), (37, "#ffffff"),
  (90, "#808080"), (91, "#ff8080"), (92, "#80ff80"), (93, "#ffff80"),
  (94, "#8080ff"), (95, "#ff80ff"), (96, "#80ffff"), (97, "#ffffff")]

/-- The colour of a foreground code. -/
def colour? (code : Nat) : Option String :=
  (palette.find? (fun p => p.1 == code)).map Prod.snd

/-- The least foreground code of a colour. -/
def colourCode? (colour : String) : Option Nat :=
  (palette.find? (fun p => p.2 == colour)).map Prod.fst

/-- The attributes of a run of text. -/
structure Style where
  /-- Heavy letters. -/
  bold : Bool := false
  /-- Slanted letters. -/
  italic : Bool := false
  /-- A line below the letters. -/
  underline : Bool := false
  /-- A line through the letters. -/
  strikethrough : Bool := false
  /-- Foreground and background change places. -/
  inverse : Bool := false
  /-- The colour of the letters. -/
  foreground : Option String := none
  /-- The colour behind the letters. -/
  background : Option String := none
deriving Repr, DecidableEq, Inhabited

namespace Style

/-- The style without any attribute. -/
def plain : Style := {}

/-- Whether a style has no attribute. -/
def isPlain (s : Style) : Bool := s == plain

/-- The colours to paint letters and background with. -/
def effectiveColours (s : Style) : Option String × Option String :=
  if s.inverse then (s.background, s.foreground) else (s.foreground, s.background)

/-- The effect of one code. Codes without a meaning have none. -/
def applyCode (s : Style) (code : Nat) : Style :=
  match code with
  | 0 => plain
  | 1 => { s with bold := true }
  | 3 => { s with italic := true }
  | 4 => { s with underline := true }
  | 7 => { s with inverse := true }
  | 9 => { s with strikethrough := true }
  | 22 => { s with bold := false }
  | 23 => { s with italic := false }
  | 24 => { s with underline := false }
  | 27 => { s with inverse := false }
  | 29 => { s with strikethrough := false }
  | 39 => { s with foreground := none }
  | 49 => { s with background := none }
  | n =>
    match colour? n with
    | some c => { s with foreground := some c }
    | none =>
      if n < 10 then s
      else
        match colour? (n - 10) with
        | some c => { s with background := some c }
        | none => s

/-- The effect of codes, one after another. -/
def applyCodes (s : Style) (codes : List Nat) : Style := codes.foldl applyCode s

/-- The codes that set a style, whatever was set before. -/
def codes (s : Style) : List Nat :=
  [0] ++ (if s.bold then [1] else []) ++ (if s.italic then [3] else []) ++
    (if s.underline then [4] else []) ++ (if s.inverse then [7] else []) ++
    (if s.strikethrough then [9] else []) ++
    (s.foreground.bind colourCode?).toList ++
    ((s.background.bind colourCode?).map (· + 10)).toList

/-- Codes with a semicolon between two of them. -/
def joinCodes (codes : List Nat) : List Char :=
  [';'].intercalate (codes.map (Nat.toDigits 10))

/-- The control sequence that sets a style. -/
def sequence (s : Style) : String :=
  String.ofList ('\x1b' :: '[' :: joinCodes s.codes ++ ['m'])

end Style

end SimTerm
