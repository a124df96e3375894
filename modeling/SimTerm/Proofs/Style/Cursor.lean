import SimTerm.Proofs.Style.Rendering

/-!
# Cursors in Whole Numbers

Where a pen stands, counted in numbers that can be negative.

A pen counts rows and columns from zero and in natural numbers. A difference of
natural numbers is never negative, whatever is taken away, so the type alone
says that the cursor stays on the screen and not why. `Cursor` counts in whole
numbers. There a row is a number of the sequence less one, and it is zero or
more only because a missing number and a zero stand for one. A step up or to
the left would leave the screen if it were not held at the edge.

With this a cursor never leaves the screen (`follow?_onScreen`). The pen and the
cursor move alike (`cursor_perform`), so the place of a pen can be followed
along control sequences in whole numbers.

## Main definitions

* `Cursor`: A place, on the screen or not.
* `Cursor.OnScreen`: It is on the screen, or below or to the right of it.
* `Cursor.move`: The effect of a letter with numbers.
* `Cursor.follow?`: The effect of control sequences.
* `Pen.cursor`: The place of a pen.

## Theorems

* `move_onScreen`, `follow?_onScreen`: A cursor stays on the screen.
* `cursor_perform`: A pen moves like its cursor.
* `follow?_cursor`: It does so along control sequences.
-/

namespace SimTerm

/-- A place in whole numbers. -/
structure Cursor where
  /-- The column, from zero. -/
  x : Int := 0
  /-- The row, from zero. -/
  y : Int := 0
deriving Repr, DecidableEq

namespace Cursor

/-- The place is not to the left of the screen and not above it. -/
structure OnScreen (c : Cursor) : Prop where
  /-- The column is zero or more. -/
  x_nonneg : 0 ≤ c.x
  /-- The row is zero or more. -/
  y_nonneg : 0 ≤ c.y

/-- A number of a sequence, where a missing number is zero and zero means one. -/
def number (params : List Nat) (i : Nat) : Int :=
  if params.getD i 0 = 0 then 1 else params.getD i 0

/-- The effect of a letter with numbers. -/
def move (c : Cursor) (final : Char) (params : List Nat) : Cursor :=
  match final with
  | 'H' | 'f' => { x := number params 1 - 1, y := number params 0 - 1 }
  | 'A' => { c with y := max 0 (c.y - number params 0) }
  | 'B' => { c with y := c.y + number params 0 }
  | 'C' => { c with x := c.x + number params 0 }
  | 'D' => { c with x := max 0 (c.x - number params 0) }
  | _ => c

/-- The place after control sequences, one after another; nothing if one of
    them cannot be read. -/
def follow? (c : Cursor) (gs : List ControlSequence) : Option Cursor :=
  gs.foldlM (fun c g => (parameters? g.body).map (c.move g.final)) c

theorem follow?_nil (c : Cursor) : c.follow? [] = some c := rfl

theorem follow?_cons (c : Cursor) (g : ControlSequence) (gs : List ControlSequence) :
    c.follow? (g :: gs) =
      ((parameters? g.body).map (c.move g.final)).bind (fun c' => c'.follow? gs) := by
  rw [follow?, List.foldlM_cons]
  rfl

theorem number_pos (params : List Nat) (i : Nat) : 1 ≤ number params i := by
  rw [number]
  split <;> omega

/-- A move does not leave the screen. -/
theorem move_onScreen (c : Cursor) (final : Char) (params : List Nat) (hc : c.OnScreen) :
    (c.move final params).OnScreen := by
  have hfirst : 1 ≤ number params 0 := number_pos params 0
  have hsecond : 1 ≤ number params 1 := number_pos params 1
  have hsteps : 0 ≤ number params 0 := Int.le_trans (by decide) hfirst
  unfold move
  split
  case h_1 => exact ⟨Int.sub_nonneg_of_le hsecond, Int.sub_nonneg_of_le hfirst⟩
  case h_2 => exact ⟨Int.sub_nonneg_of_le hsecond, Int.sub_nonneg_of_le hfirst⟩
  case h_3 => exact ⟨hc.x_nonneg, Int.le_max_left 0 _⟩
  case h_4 => exact ⟨hc.x_nonneg, Int.add_nonneg hc.y_nonneg hsteps⟩
  case h_5 => exact ⟨Int.add_nonneg hc.x_nonneg hsteps, hc.y_nonneg⟩
  case h_6 => exact ⟨Int.le_max_left 0 _, hc.y_nonneg⟩
  case h_7 => exact hc

/-- Control sequences do not lead from the screen. -/
theorem follow?_onScreen (gs : List ControlSequence) (c c' : Cursor) (hc : c.OnScreen)
    (h : c.follow? gs = some c') : c'.OnScreen := by
  induction gs generalizing c with
  | nil =>
      rw [follow?_nil, Option.some.injEq] at h
      exact h ▸ hc
  | cons g gs ih =>
      rw [follow?_cons] at h
      rcases Option.bind_eq_some_iff.mp h with ⟨next, hnext, hrest⟩
      rcases Option.map_eq_some_iff.mp hnext with ⟨params, _, rfl⟩
      exact ih _ (move_onScreen c g.final params hc) hrest

/-- The steps of a pen are the numbers of a sequence. -/
theorem number_eq_steps (params : List Nat) (i : Nat) :
    number params i = (Pen.steps params[i]? : Int) := by
  rw [number, List.getD_eq_getElem?_getD]
  cases params[i]? with
  | none => rfl
  | some n => cases n <;> rfl

end Cursor

namespace Pen

/-- The place of a pen. -/
def cursor (p : Pen) : Cursor := ⟨p.x, p.y⟩

/-- A pen moves like its cursor. -/
theorem cursor_perform (p : Pen) (final : Char) (params : List Nat) :
    (p.perform final params).cursor = p.cursor.move final params := by
  have hfirst := Cursor.number_pos params 0
  have hsecond := Cursor.number_pos params 1
  rw [Cursor.number_eq_steps] at hfirst hsecond
  -- One letter sets the style and the others move, or do nothing.
  unfold perform Cursor.move
  split
  case h_1 => rfl
  all_goals simp only [cursor, Cursor.number_eq_steps, Cursor.mk.injEq, true_and, and_true]
  all_goals omega

/-- The cursor of a pen is where control sequences lead it in whole numbers. -/
theorem follow?_cursor (p : Pen) (gs : List ControlSequence) :
    p.cursor.follow? gs = (p.obeyAll? gs).map cursor := by
  induction gs generalizing p with
  | nil => rw [Cursor.follow?_nil, obeyAll?_nil, Option.map_some]
  | cons g gs ih =>
      rw [Cursor.follow?_cons, obeyAll?_cons, obey?]
      cases parameters? g.body with
      | none => rfl
      | some params =>
          rw [Option.map_some, Option.map_some, Option.bind_some, Option.bind_some,
            ← cursor_perform, ih]

end Pen

end SimTerm
