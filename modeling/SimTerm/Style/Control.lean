import SimTerm.Style
/-!
# Control Sequences

A text falls into runs of literal characters and control sequences. A control sequence starts
with the escape character and an opening bracket and ends at the first ASCII letter; one that
has no letter up to the end of the text is unfinished.

## Main definitions

* `Piece`: A literal run, a control sequence or an unfinished one.
* `Piece.ofText`: The pieces of a text.
* `parameters?`: The numbers in a control sequence.
* `Pen`: A style together with a cursor.
* `Pen.obey?`: The effect of a control sequence.
-/

namespace SimTerm

/-- A part of a text with control sequences. -/
inductive Piece where
  /-- A run of literal characters. -/
  | text (cs : List Char)
  /-- A control sequence: what stands between the bracket and the letter, and the letter. -/
  | control (body : List Char) (final : Char)
  /-- The rest of a text from a control sequence on that does not end. -/
  | unfinished (cs : List Char)
deriving Repr, DecidableEq

namespace Piece

/-- A run of literal characters as pieces; the empty run is none. -/
def literal (cs : List Char) : List Piece := if cs.isEmpty then [] else [.text cs]

mutual

/-- The pieces of a text after literal characters, given in reverse. -/
def afterText (before : List Char) : List Char → List Piece
  | [] => literal before.reverse
  | '\x1b' :: '[' :: cs => literal before.reverse ++ afterBracket [] cs
  | c :: cs => afterText (c :: before) cs

/-- The pieces of a text inside a control sequence, whose characters so far are given in
reverse. -/
def afterBracket (body : List Char) : List Char → List Piece
  | [] => [.unfinished ('\x1b' :: '[' :: body.reverse)]
  | c :: cs =>
    if c.isAlpha then .control body.reverse c :: afterText [] cs
    else afterBracket (c :: body) cs

end

/-- The pieces of a text. -/
def ofText (cs : List Char) : List Piece := afterText [] cs

end Piece

/-- The number at the front of a parameter, zero if it has none; nothing if it has too many
digits. -/
def parameter? (token : List Char) : Option Nat :=
  let digits := token.takeWhile Text.isDigit
  if digits.isEmpty then some 0 else Text.readDecimal? digits

/-- The numbers between the semicolons of a control sequence. -/
def parameters? (body : List Char) : Option (List Nat) := (body.splitOn ';').mapM parameter?

/-- A style together with a cursor. -/
structure Pen where
  /-- The column of the cursor, from zero. -/
  x : Nat := 0
  /-- The row of the cursor, from zero. -/
  y : Nat := 0
  /-- The attributes of what is written next. -/
  style : Style := {}
deriving Repr, DecidableEq, Inhabited

namespace Pen

/-- A count of steps, where zero and a missing number mean one. -/
def steps (n : Option Nat) : Nat :=
  match n with
  | none => 1
  | some 0 => 1
  | some n => n

/-- The effect of a letter with numbers. -/
def perform (p : Pen) (final : Char) (params : List Nat) : Pen :=
  match final with
  | 'm' => { p with style := p.style.applyCodes params }
  -- Rows and columns count from one here.
  | 'H' | 'f' => { p with y := steps params[0]? - 1, x := steps params[1]? - 1 }
  -- The difference of natural numbers stops at the edge.
  | 'A' => { p with y := p.y - steps params[0]? }
  | 'B' => { p with y := p.y + steps params[0]? }
  | 'C' => { p with x := p.x + steps params[0]? }
  | 'D' => { p with x := p.x - steps params[0]? }
  | _ => p

/-- The effect of a control sequence; nothing if one of its numbers has too many digits. -/
def obey? (p : Pen) (body : List Char) (final : Char) : Option Pen :=
  (parameters? body).map (p.perform final)

end Pen

end SimTerm
