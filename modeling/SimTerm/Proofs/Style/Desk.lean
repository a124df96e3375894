import SimTerm.Proofs.Style.Cursor
import SimTerm.Proofs.Style.Encoding
import SimTerm.Proofs.Style.Overlong

/-!
# A Pen and Texts that Are Half Read

What a pen has become when texts are read with it in whole and in part.

A text need not be read at once. Its segments can be pulled one at a time, and
between two of them the same pen can read other texts or become a fresh one. On
a `Desk` lie the pen and all texts that are being read with it, each as the
pieces that are still to come.

Whatever is done there, the pen is the one that a fresh pen becomes by the
control sequences that took effect since it was fresh. The desk keeps a list of
these, and one action adds to it what a text has before its next literal run, or
before its end (`act_accounted`). All that is true of a pen after control
sequences is then true of the pen on a desk: the colours are from the palette,
and the cursor is where whole numbers lead it.

Reading stops in front of the first control sequence with too many digits, and
all sequences in front of that have taken effect (`heeded_pieces`).

## Main definitions

* `ControlSequence.IsOverlong`: A sequence that cannot be read.
* `Piece.heeded`: The control sequences of some pieces that take effect.
* `Piece.afterRun`: The pieces behind the next literal run.
* `Desk`: A pen and the texts that are being read with it.
* `Desk.Action`, `Desk.act`, `Desk.run`: What can be done there.
* `Desk.Accounted`: The sequences that took effect account for the pen.

## Theorems

* `obeyAll?_heeded`: The pen after pieces is the one after the sequences of
  them that take effect.
* `pullPieces_succ`: Segments can be pulled one at a time.
* `heeded_pieces`: Those are the ones in front of the first overlong one.
* `run_accounted`: A run keeps the account.
* `run_advance`: Segments that are pulled one at a time leave the pen where
  pulling them at once does.
* `run_wellFormed`: The pen after a run, and the next text it reads.
-/

namespace SimTerm

/-- A control sequence in which a parameter has too many digits at its front. -/
def ControlSequence.IsOverlong (g : ControlSequence) : Prop :=
  ∃ token ∈ g.body.splitOn ';', Text.maxDigits < (token.takeWhile Text.isDigit).length

instance (g : ControlSequence) : Decidable g.IsOverlong :=
  inferInstanceAs (Decidable (∃ token ∈ g.body.splitOn ';', _))

namespace Piece

/-- Whether a piece is a complete control sequence. -/
def isControl : Piece → Bool
  | .control _ _ => true
  | .text _ | .unfinished _ => false

/-- The control sequences that take effect when some pieces are read to their
    end, or up to the first sequence that cannot be read. -/
def heeded : List Piece → List ControlSequence
  | [] => []
  | .text _ :: rest => heeded rest
  | .control body final :: rest =>
    match parameters? body with
    | none => []
    | some _ => ⟨body, final⟩ :: heeded rest
  | .unfinished _ :: _ => []

/-- The pieces behind the next literal run. There are none if reading breaks off
    in front of it. -/
def afterRun : List Piece → List Piece
  | [] => []
  | .text _ :: rest => rest
  | .control body _ :: rest =>
    match parameters? body with
    | none => []
    | some _ => afterRun rest
  | .unfinished _ :: _ => []

end Piece

namespace Pen

/-- The pen after pieces is the one after the sequences that take effect. -/
theorem obeyAll?_heeded (p : Pen) (ps : List Piece) :
    p.obeyAll? (Piece.heeded ps) = some (p.renderPieces ps).pen := by
  induction ps generalizing p with
  | nil => exact p.obeyAll?_nil
  | cons piece rest ih =>
      cases piece with
      | text cs => exact ih p
      | control body final =>
          rw [Piece.heeded, renderPieces]
          -- Whether a sequence can be read does not depend on the pen.
          cases hparams : parameters? body with
          | none =>
              rw [(p.obey?_eq_none_iff body final).mpr hparams]
              exact p.obeyAll?_nil
          | some params =>
              have hobey : p.obey? body final = some (p.perform final params) := by
                rw [obey?, hparams, Option.map_some]
              rw [obeyAll?_cons, hobey, Option.bind_some]
              exact ih _
      | unfinished cs => exact p.obeyAll?_nil

/-- For one segment, what stands in front of the next literal run is read. -/
theorem pullPieces_one_pen (p : Pen) (ps : List Piece) :
    (p.pullPieces 1 ps).pen = (p.renderPieces (ps.takeWhile Piece.isControl)).pen := by
  induction ps generalizing p with
  | nil => rfl
  | cons piece rest ih =>
      cases piece with
      | text cs =>
          rw [pullPieces, pullPieces]
          rfl
      | control body final =>
          rw [List.takeWhile_cons_of_pos rfl, pullPieces, renderPieces]
          cases p.obey? body final with
          | none => rfl
          | some p' => exact ih p'
      | unfinished cs => rfl

/-- One more segment is the first one, and then the others from the pieces
    behind it. -/
theorem pullPieces_succ (p : Pen) (n : Nat) (ps : List Piece) :
    let first := p.pullPieces 1 ps
    let others := first.pen.pullPieces n (Piece.afterRun ps)
    p.pullPieces (n + 1) ps =
      { segments := first.segments ++ others.segments
        pen := others.pen
        dropped := first.dropped.or others.dropped
        brokeOff := first.brokeOff || others.brokeOff } := by
  -- Nothing comes of no pieces.
  have hnone : ∀ (q : Pen) (n : Nat), q.pullPieces n [] = { pen := q } := by
    intro q n
    cases n <;> rfl
  induction ps generalizing p with
  | nil => simp only [pullPieces, Piece.afterRun, hnone]; rfl
  | cons piece rest ih =>
      cases piece with
      | text cs => simp only [pullPieces, Piece.afterRun, Rendering.cons]; rfl
      | control body final =>
          rw [pullPieces, pullPieces, Piece.afterRun]
          cases hparams : parameters? body with
          | none =>
              rw [(p.obey?_eq_none_iff body final).mpr hparams]
              dsimp only
              rw [hnone]
              rfl
          | some params =>
              have hobey : p.obey? body final = some (p.perform final params) := by
                rw [obey?, hparams, Option.map_some]
              rw [hobey]
              exact ih _
      | unfinished cs => simp only [pullPieces, Piece.afterRun, hnone]; rfl

/-- Control sequences keep the colours in the palette. -/
theorem obeyAll?_usesPalette (p p' : Pen) (gs : List ControlSequence) (hp : p.style.UsesPalette)
    (h : p.obeyAll? gs = some p') : p'.style.UsesPalette := by
  induction gs generalizing p with
  | nil =>
      rw [obeyAll?_nil, Option.some.injEq] at h
      rw [← h]
      exact hp
  | cons g gs ih =>
      rw [obeyAll?_cons] at h
      rcases Option.bind_eq_some_iff.mp h with ⟨q, hq, hrest⟩
      exact ih q (obey?_usesPalette p q g.body g.final hp hq) hrest

end Pen

namespace Layout

theorem heeded_literal (run : List Char) (ps : List Piece) :
    Piece.heeded (Piece.literal run ++ ps) = Piece.heeded ps := by
  by_cases hrun : run = []
  · rw [hrun, Piece.literal_nil, List.nil_append]
  · rw [Piece.literal_of_ne_nil run hrun, List.singleton_append, Piece.heeded]

/-- The sequences of a text that take effect are those in front of the first
    one that has too many digits. -/
theorem heeded_pieces (d : Layout) :
    Piece.heeded d.pieces = d.sequences.takeWhile (fun g => ¬ g.IsOverlong) := by
  induction d with
  | last run tail =>
      have h := heeded_literal run []
      rw [List.append_nil] at h
      cases tail with
      | none => exact h
      | some tail => exact heeded_literal run _
  | more run g rest ih =>
      rw [pieces, heeded_literal, Piece.heeded, sequences]
      have hread := parameters?_eq_none_iff g.body
      cases hparams : parameters? g.body with
      | none =>
          have hover : g.IsOverlong := hread.mp hparams
          rw [List.takeWhile_cons_of_neg (by simp only [hover, not_true_eq_false, decide_false,
            Bool.false_eq_true, not_false_eq_true])]
      | some params =>
          have hover : ¬ g.IsOverlong := by
            intro h
            rw [hread.mpr h] at hparams
            exact absurd hparams (by simp only [reduceCtorEq, not_false_eq_true])
          rw [List.takeWhile_cons_of_pos (by simp only [hover, not_false_eq_true, decide_true]), ih]

end Layout

/-- A pen and the texts that are being read with it. -/
structure Desk where
  /-- The pen. -/
  pen : Pen := {}
  /-- What is still to come of each text. -/
  readings : List (List Piece) := []
  /-- The control sequences that took effect since the pen was fresh. -/
  obeyed : List ControlSequence := []
deriving Repr, DecidableEq

namespace Desk

/-- What can be done at a desk. -/
inductive Action where
  /-- A text is read to its end. -/
  | render (text : String)
  /-- A text is taken up, and nothing of it is read yet. -/
  | start (text : String)
  /-- The next segment is pulled from one of the texts that were taken up. -/
  | advance (i : Nat)
  /-- The pen becomes a fresh one. -/
  | reset
deriving Repr, DecidableEq

/-- The desk after an action. -/
def act (d : Desk) : Action → Desk
  | .render text =>
    { d with
      pen := (d.pen.render text).pen
      obeyed := d.obeyed ++ Piece.heeded (Piece.ofText text.toList) }
  | .start text => { d with readings := d.readings ++ [Piece.ofText text.toList] }
  | .advance i =>
    match d.readings[i]? with
    | none => d
    | some ps =>
      { pen := (d.pen.pullPieces 1 ps).pen
        readings := d.readings.set i (Piece.afterRun ps)
        obeyed := d.obeyed ++ Piece.heeded (ps.takeWhile Piece.isControl) }
  | .reset => { d with pen := {}, obeyed := [] }

/-- The desk after some actions. -/
def run (d : Desk) (actions : List Action) : Desk := actions.foldl act d

/-- The sequences that took effect account for the pen. -/
def Accounted (d : Desk) : Prop := ({} : Pen).obeyAll? d.obeyed = some d.pen

/-- Pieces that are read add to the account. -/
theorem accounted_append (d : Desk) (ps : List Piece) (hd : d.Accounted) :
    ({} : Pen).obeyAll? (d.obeyed ++ Piece.heeded ps) = some (d.pen.renderPieces ps).pen := by
  rw [Pen.obeyAll?_append, hd, Option.bind_some, Pen.obeyAll?_heeded]

/-- An action keeps the account. -/
theorem act_accounted (d : Desk) (a : Action) (hd : d.Accounted) : (d.act a).Accounted := by
  cases a with
  | render text => exact d.accounted_append _ hd
  | start text => exact hd
  | advance i =>
      rw [act]
      cases d.readings[i]? with
      | none => exact hd
      | some ps =>
          rw [Accounted, d.accounted_append _ hd, ← Pen.pullPieces_one_pen]
  | reset => exact Pen.obeyAll?_nil {}

/-- A run keeps the account. -/
theorem run_accounted (actions : List Action) (d : Desk) (hd : d.Accounted) :
    (d.run actions).Accounted := by
  induction actions generalizing d with
  | nil => exact hd
  | cons a rest ih => exact ih (d.act a) (act_accounted d a hd)

/-- Pulling segments of a text one at a time, with nothing in between, leaves
    the pen where pulling them at once does. -/
theorem run_advance (d : Desk) (n i : Nat) (ps : List Piece) (hi : d.readings[i]? = some ps) :
    (d.run (List.replicate n (.advance i))).pen = (d.pen.pullPieces n ps).pen := by
  induction n generalizing d ps with
  | zero =>
      rw [Pen.pullPieces]
      rfl
  | succ n ih =>
      have hlt : i < d.readings.length := (List.getElem?_eq_some_iff.mp hi).1
      have hact : d.act (.advance i) =
          { pen := (d.pen.pullPieces 1 ps).pen
            readings := d.readings.set i (Piece.afterRun ps)
            obeyed := d.obeyed ++ Piece.heeded (ps.takeWhile Piece.isControl) } := by
        rw [act, hi]
      rw [List.replicate_succ, run, List.foldl_cons, ← run, hact, d.pen.pullPieces_succ n ps]
      exact ih _ _ (List.getElem?_set_self hlt)

/-- Whatever texts a pen has read, in whole or in part, it is well-formed. The
    control sequences that took effect since it was fresh account for it; its
    cursor is where they lead in whole numbers, and never left the screen; its
    colours are from the palette. Reading one more text with it breaks off
    exactly if a complete control sequence of that text has too many digits in
    front of a parameter, and the pen is then the one after the sequences in
    front of the first of these. -/
theorem run_wellFormed (actions : List Action) :
    let d := ({} : Desk).run actions
    ({} : Pen).obeyAll? d.obeyed = some d.pen ∧
    (({} : Cursor).follow? d.obeyed = some d.pen.cursor ∧ d.pen.cursor.OnScreen) ∧
    d.pen.style.UsesPalette ∧
    ∀ text, ∃ layout : Layout, layout.Divides text ∧
      (∀ other : Layout, other.Divides text → other = layout) ∧
      ((d.pen.render text).brokeOff = true ↔ ∃ g ∈ layout.sequences, g.IsOverlong) ∧
      d.pen.obeyAll? (layout.sequences.takeWhile (fun g => ¬ g.IsOverlong)) =
        some (d.act (.render text)).pen := by
  intro d
  have hd : d.Accounted := run_accounted actions {} (Pen.obeyAll?_nil {})
  have hpalette : d.pen.style.UsesPalette :=
    Pen.obeyAll?_usesPalette {} d.pen d.obeyed Style.plain_usesPalette hd
  have hcursor : ({} : Cursor).follow? d.obeyed = some d.pen.cursor := by
    have hfollow := Pen.follow?_cursor {} d.obeyed
    rw [hd, Option.map_some] at hfollow
    exact hfollow
  have hscreen : d.pen.cursor.OnScreen :=
    Cursor.follow?_onScreen d.obeyed {} _ ⟨Int.le_refl 0, Int.le_refl 0⟩ hcursor
  refine ⟨hd, ⟨hcursor, hscreen⟩, hpalette, fun text => ?_⟩
  rcases Layout.exists_divides text with ⟨layout, hlayout⟩
  refine ⟨layout, hlayout,
    fun other hother => Layout.divides_unique layout other text hlayout hother, ?_, ?_⟩
  · rw [d.pen.brokeOff_iff layout text hlayout]
    simp only [parameters?_eq_none_iff, ControlSequence.IsOverlong]
  · rw [← layout.heeded_pieces, Pen.obeyAll?_heeded, act, d.pen.render_of_divides layout text hlayout]

/-- What a half read text does to a pen that has become a fresh one meanwhile. -/
example : (({} : Desk).run
    [.start "a\x1b[31mb\x1b[3Cc", .advance 0, .advance 0, .reset, .advance 0]).pen = { x := 3 } := by
  decide

end Desk

end SimTerm
