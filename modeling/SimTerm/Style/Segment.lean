import SimTerm.Journal.Event
import SimTerm.Style.Control
/-!
# Styled Segments

A text with control sequences as runs of literal characters, each with the style it is written
in. The pen that writes them is carried from one text to the next. Segments can also be pulled
one at a time; then no control sequence after the last pulled segment takes effect.

## Main definitions

* `Segment`: A run of literal characters with its style.
* `Rendering`: Segments, the pen afterwards, what was dropped and whether work broke off.
* `Pen.render`: All segments of a text.
* `Pen.pull`: The first segments of a text.
* `strip?`: A text without its control sequences.
-/

namespace SimTerm

/-- A run of literal characters with its style. -/
structure Segment where
  /-- The characters. -/
  text : String
  /-- The style. -/
  style : Style
deriving Repr, DecidableEq

/-- What comes of a text with control sequences. -/
structure Rendering where
  /-- The segments in order. -/
  segments : List Segment := []
  /-- The pen after the last control sequence that took effect. -/
  pen : Pen
  /-- An unfinished control sequence that was dropped. -/
  dropped : Option (List Char) := none
  /-- Whether work broke off at a number with too many digits. -/
  brokeOff : Bool := false
deriving Repr, DecidableEq

namespace Rendering

/-- A rendering with one more segment in front. -/
def cons (s : Segment) (r : Rendering) : Rendering := { r with segments := s :: r.segments }

/-- What a rendering reports. -/
def events (r : Rendering) : List Event :=
  match r.dropped with
  | some cs => [.sequenceDropped (String.ofList cs)]
  | none => []

/-- The literal characters of all segments. -/
def text (r : Rendering) : String := String.join (r.segments.map Segment.text)

end Rendering

namespace Pen

/-- A run of literal characters in the style of the pen. -/
def segment (p : Pen) (cs : List Char) : Segment := ⟨String.ofList cs, p.style⟩

/-- The rendering of pieces. -/
def renderPieces (p : Pen) : List Piece → Rendering
  | [] => { pen := p }
  | .text cs :: rest => (renderPieces p rest).cons (p.segment cs)
  | .control body final :: rest =>
    match p.obey? body final with
    | none => { pen := p, brokeOff := true }
    | some p' => renderPieces p' rest
  | .unfinished cs :: _ => { pen := p, dropped := some cs }

/-- The rendering of pieces up to a number of segments. -/
def pullPieces (p : Pen) : Nat → List Piece → Rendering
  | 0, _ => { pen := p }
  | _ + 1, [] => { pen := p }
  | n + 1, .text cs :: rest => (pullPieces p n rest).cons (p.segment cs)
  | n + 1, .control body final :: rest =>
    match p.obey? body final with
    | none => { pen := p, brokeOff := true }
    | some p' => pullPieces p' (n + 1) rest
  | _ + 1, .unfinished cs :: _ => { pen := p, dropped := some cs }

/-- All segments of a text. -/
def render (p : Pen) (text : String) : Rendering := p.renderPieces (Piece.ofText text.toList)

/-- The first segments of a text, and the effect of what had to be read for them. -/
def pull (p : Pen) (n : Nat) (text : String) : Rendering :=
  p.pullPieces n (Piece.ofText text.toList)

end Pen

/-- A text as a fresh pen renders it. -/
def renderFresh (text : String) : Rendering := ({} : Pen).render text

/-- A text without its control sequences; nothing if one of their numbers has too many
digits. -/
def strip? (text : String) : Option String :=
  let r := renderFresh text
  if r.brokeOff then none else some r.text

end SimTerm
