import SimTerm.Proofs.History.Run

/-!
# Walking Through a History

Recalling is a walk on the kept commands, counted from the newest one.

The cursor says how many places before the newest command the walk stands, and
it is nothing outside of a walk. As a whole number, with `-1` for nothing
(`position`), it moves by plain arithmetic: one step back adds one and stops at
the oldest command, one step forward takes one away and stops at `-1`. That is
what `previous_cases` and `next_cases` say of one step, and some steps are as
much again.

A step back goes to a command that is kept, wherever it starts. A step forward
does so only if the cursor stands on one already. Entering a command can drop
the oldest one, on which the cursor may stand, but it also stops the walk. So
the cursor is in range in every state (`run_inRange`), and what is recalled is
the command that stands there and never the default for a missing one.

## Main definitions

* `position`: The cursor as a whole number.
* `InRange`: The cursor stands on a command, or nowhere.
* `back`, `forward`: Some steps, with what the last one gives.

## Theorems

* `previous_cases`, `next_cases`: Where a step goes and what it gives.
* `run_inRange`: The cursor is in range after every run.
* `back_recalled`: Where some steps back go.
* `forward_recalled`, `forward_past`: Where some steps forward go.
* `recall_walks`: All of it, for every state of every run.
-/

namespace SimTerm

namespace History

/-- How many places before the newest command the cursor stands, with `-1` for
    nowhere. -/
def position (h : History) : Int := h.cursor.elim (-1) (fun places => (places : Int))

/-- The cursor stands on a command that is kept, or nowhere. -/
structure InRange (h : History) : Prop where
  /-- Nowhere is right behind the newest command. -/
  low : -1 ≤ h.position
  /-- The oldest command is the last one to stand on. -/
  high : h.position ≤ (h.entries.length : Int) - 1

/-- Some steps back, with what the last one gives. -/
def back (h : History) : Nat → Option String × History
  | 0 => (none, h)
  | k + 1 => (h.back k).2.previous

/-- Some steps forward, with what the last one gives. -/
def forward (h : History) : Nat → String × History
  | 0 => ("", h)
  | j + 1 => (h.forward j).2.next

/-! ### One step -/

variable (h : History)

theorem position_of_none (hcursor : h.cursor = none) : h.position = -1 := by
  rw [position, hcursor, Option.elim_none]

theorem position_of_some (places : Nat) (hcursor : h.cursor = some places) :
    h.position = places := by
  rw [position, hcursor, Option.elim_some]

theorem neg_one_le_position : -1 ≤ h.position := by
  cases hcursor : h.cursor with
  | none => exact Int.le_of_eq (position_of_none h hcursor).symm
  | some places =>
      rw [position_of_some h places hcursor]
      omega

/-- On a place before the oldest command something is recalled. -/
theorem recalled_eq (places : Nat) (hplaces : places < h.entries.length) :
    h.entries.reverse[places]? = some (h.recalled places) := by
  have hin : places < h.entries.reverse.length := by
    rw [List.length_reverse]
    exact hplaces
  rw [recalled, List.getElem?_eq_getElem hin, Option.getD_some]

/-- Without commands there is nothing to recall, and the cursor stays. -/
theorem previous_of_nil (hnil : h.entries = []) : h.previous = (none, h) := by
  rw [previous, hnil, List.isEmpty_nil, if_pos rfl]

/-- A step back goes one place back, as long as there is one, and gives the
    command that stands there. -/
theorem previous_cases (hne : h.entries ≠ []) :
    ∃ places : Nat, (places : Int) = min (h.position + 1) ((h.entries.length : Int) - 1) ∧
      places < h.entries.length ∧
      h.previous = (some (h.recalled places), { h with cursor := some places }) := by
  have hlength : 0 < h.entries.length := List.length_pos_of_ne_nil hne
  rw [previous, if_neg (fun hempty => hne (List.isEmpty_iff.mp hempty))]
  refine ⟨_, ?_, ?_, rfl⟩
  · cases hcursor : h.cursor with
    | none =>
        rw [position_of_none h hcursor]
        dsimp only
        omega
    | some places =>
        rw [position_of_some h places hcursor]
        dsimp only
        omega
  · cases h.cursor with
    | none => exact hlength
    | some places =>
        dsimp only
        omega

/-- A step forward goes one place forward and gives the command that stands
    there, or it goes from the newest command or from nowhere to nowhere. -/
theorem next_cases :
    (h.position ≤ 0 ∧ h.next = ("", { h with cursor := none })) ∨
      ∃ places : Nat, (places : Int) = h.position - 1 ∧
        h.next = (h.recalled places, { h with cursor := some places }) := by
  unfold next
  split
  case h_1 places hcursor =>
    refine .inr ⟨places, ?_, rfl⟩
    rw [position_of_some h (places + 1) hcursor]
    omega
  case h_2 hother =>
    refine .inl ⟨?_, rfl⟩
    cases hcursor : h.cursor with
    | none =>
        rw [position_of_none h hcursor]
        omega
    | some places =>
        cases places with
        | zero => exact Int.le_of_eq (position_of_some h 0 hcursor)
        | succ places => exact absurd hcursor (hother places)

/-! ### In range -/

/-- Every action leaves the cursor in range. -/
theorem act_inRange (a : Action) (hh : h.InRange) : (h.act a).InRange := by
  -- A cursor that is nowhere is in range, whatever the commands are.
  have hstopped : ∀ h' : History, h'.cursor = none → h'.InRange := by
    intro h' hcursor
    have hposition := position_of_none h' hcursor
    exact ⟨by omega, by omega⟩
  cases a with
  | push command =>
      refine hstopped _ ?_
      simp only [act, push]
      split <;> rfl
  | previous =>
      rw [act]
      by_cases hne : h.entries = []
      · rw [previous_of_nil h hne]
        exact hh
      · rcases previous_cases h hne with ⟨places, _, hin, hstep⟩
        rw [hstep]
        exact ⟨neg_one_le_position _, by rw [position_of_some _ places rfl]; dsimp only; omega⟩
  | next =>
      rw [act]
      rcases next_cases h with ⟨_, hstep⟩ | ⟨places, hplaces, hstep⟩
      · rw [hstep]
        exact hstopped _ rfl
      · have hhigh := hh.high
        rw [hstep]
        exact ⟨neg_one_le_position _, by rw [position_of_some _ places rfl]; dsimp only; omega⟩
  | resetCursor => exact hstopped _ rfl

theorem run_inRange (n : Nat) (actions : List Action) :
    (({ capacity := n } : History).run actions).InRange := by
  have hrun : ∀ (actions : List Action) (h : History), h.InRange → (h.run actions).InRange := by
    intro actions
    induction actions with
    | nil => exact fun h hh => hh
    | cons a rest ih => exact fun h hh => ih (h.act a) (act_inRange h a hh)
  exact hrun actions _ ⟨Int.le_refl _, Int.le_refl _⟩

/-! ### Some steps -/

/-- Some steps back go as many places back, as long as there are some, and the
    last one gives the command that stands there. -/
theorem back_recalled (hne : h.entries ≠ []) (k : Nat) (hk : 1 ≤ k) :
    (h.back k).2.entries = h.entries ∧
      (h.back k).2.position = min (h.position + k) ((h.entries.length : Int) - 1) ∧
      ∃ places : Nat, (places : Int) = (h.back k).2.position ∧
        h.entries.reverse[places]? = (h.back k).1 ∧ (h.back k).1 ≠ none := by
  -- Without a step back nothing is recalled, so the induction starts at the first one.
  induction k, hk using Nat.le_induction with
  | base =>
      rcases previous_cases h hne with ⟨places, hplaces, hin, hstep⟩
      rw [back, back, hstep, position_of_some _ places rfl]
      exact ⟨rfl, hplaces, places, rfl, recalled_eq h places hin, Option.some_ne_none _⟩
  | succ k hk ih =>
      rcases ih with ⟨hentries, hposition, _⟩
      have hne' : (h.back k).2.entries ≠ [] := hentries ▸ hne
      rcases previous_cases (h.back k).2 hne' with ⟨places, hplaces, hin, hstep⟩
      have hfound := recalled_eq (h.back k).2 places hin
      rw [hentries] at hplaces hfound
      rw [back, hstep, position_of_some _ places rfl]
      refine ⟨hentries, ?_, places, rfl, hfound, Option.some_ne_none _⟩
      rw [hplaces, hposition]
      omega

theorem forward_entries (j : Nat) : (h.forward j).2.entries = h.entries := by
  induction j with
  | zero => rfl
  | succ j ih => rw [forward, next_entries, ih]

theorem forward_position (j : Nat) : (h.forward j).2.position = max (h.position - j) (-1) := by
  induction j with
  | zero =>
      have hlow := neg_one_le_position h
      rw [forward]
      dsimp only
      omega
  | succ j ih =>
      rw [forward]
      rcases next_cases (h.forward j).2 with ⟨hlow, hstep⟩ | ⟨places, hplaces, hstep⟩
      · rw [hstep, position_of_none _ rfl]
        omega
      · have hlow : 0 ≤ (places : Int) := by omega
        rw [hstep, position_of_some _ places rfl]
        omega

/-- Some steps forward that do not leave the commands go as many places forward,
    and the last one gives the command that stands there. -/
theorem forward_recalled (hh : h.InRange) (j : Nat) (hj : 1 ≤ j) (hin : (j : Int) ≤ h.position) :
    h.entries.reverse[(h.position - j).toNat]? = some (h.forward j).1 := by
  rcases Nat.exists_eq_add_of_le' hj with ⟨i, rfl⟩
  have hbefore := forward_position h i
  have hhigh := hh.high
  rw [forward]
  rcases next_cases (h.forward i).2 with ⟨hlow, _⟩ | ⟨places, hplaces, hstep⟩
  · omega
  · have hsame : (h.position - ((i + 1 : Nat) : Int)).toNat = places := by omega
    have hfound := recalled_eq (h.forward i).2 places (by rw [forward_entries]; omega)
    rw [hstep, hsame, ← hfound, forward_entries]

/-- More steps forward than there are commands give the empty line. -/
theorem forward_past (j : Nat) (hj : 1 ≤ j) (hout : h.position < j) :
    (h.forward j).1 = "" ∧ (h.forward j).2.position = -1 := by
  rcases Nat.exists_eq_add_of_le' hj with ⟨i, rfl⟩
  have hbefore := forward_position h i
  rw [forward]
  rcases next_cases (h.forward i).2 with ⟨_, hstep⟩ | ⟨places, hplaces, _⟩
  · rw [hstep, position_of_none _ rfl]
    exact ⟨rfl, rfl⟩
  · omega

/-- In every state of every run the cursor is in range. Then a step back gives
    nothing exactly if there are no commands, and the cursor stays nowhere. If
    there are some, steps back go as many places back, but not beyond the oldest
    command, and the last of them gives the command that stands there. Steps
    forward from there give the commands in turn, and behind the newest one the
    empty line, with the cursor nowhere. -/
theorem recall_walks (n : Nat) (actions : List Action) :
    let h := ({ capacity := n } : History).run actions
    h.InRange ∧
    ((h.previous.1 = none ↔ h.entries = []) ∧ (h.entries = [] → h.previous.2.position = -1)) ∧
    (h.entries ≠ [] → ∀ k : Nat, 1 ≤ k →
      let m := min (h.position + k) ((h.entries.length : Int) - 1)
      let there := (h.back k).2
      (0 ≤ m ∧ there.position = m ∧ h.entries.reverse[m.toNat]? = (h.back k).1 ∧
        (h.back k).1 ≠ none) ∧
      ∀ j : Nat, 1 ≤ j →
        ((j : Int) ≤ m → (there.forward j).2.position = m - j ∧
          h.entries.reverse[(m - j).toNat]? = some (there.forward j).1) ∧
        (m < j → (there.forward j).1 = "" ∧ (there.forward j).2.position = -1)) := by
  intro h
  have hh : h.InRange := run_inRange n actions
  refine ⟨hh, ⟨⟨fun hnone => ?_, fun hnil => ?_⟩, fun hnil => ?_⟩, fun hne k hk => ?_⟩
  · by_contra hne
    rcases previous_cases h hne with ⟨places, _, _, hstep⟩
    rw [hstep] at hnone
    exact absurd hnone (Option.some_ne_none _)
  · rw [previous_of_nil h hnil]
  · have hhigh := hh.high
    have hlow := hh.low
    rw [hnil, List.length_nil] at hhigh
    rw [previous_of_nil h hnil]
    dsimp only
    omega
  · intro m there
    rcases back_recalled h hne k hk with ⟨hentries, hposition, places, hplaces, hfound, hsome⟩
    have hthere : there.position = m := hposition
    have hnat : m.toNat = places := by omega
    -- The state after the steps back is in range, too.
    have hrange : there.InRange := by
      refine ⟨neg_one_le_position _, ?_⟩
      rw [hthere, hentries]
      exact Int.min_le_right _ _
    refine ⟨⟨by omega, hthere, hnat ▸ hfound, hsome⟩, fun j hj => ⟨fun hin => ?_, fun hout => ?_⟩⟩
    · rw [← hthere] at hin ⊢
      have hlow : -1 ≤ there.position - j := by omega
      rw [forward_position, ← hentries]
      exact ⟨Int.max_eq_left hlow, forward_recalled there hrange j hj hin⟩
    · rw [← hthere] at hout
      exact forward_past there j hj hout

/-- A walk that runs into the oldest of two kept commands and leaves behind the
    newest one. -/
theorem recall_walks_ends :
    let h := ({ capacity := 2 } : History).run
      [.push "ls", .push "pwd", .push "date", .previous]
    h.entries = ["pwd", "date"] ∧ h.entries ≠ [] ∧ 1 ≤ 3 ∧ h.position = 0 ∧
      (h.back 3).2.position = min (h.position + (3 : Nat)) ((h.entries.length : Int) - 1) ∧
      (h.back 3).1 = some "pwd" ∧ ((h.back 3).2.forward 1).1 = "date" ∧
      ((h.back 3).2.forward 2).1 = "" ∧ ((h.back 3).2.forward 2).2.position = -1 := by
  intro h
  have hentries : h.entries = ["pwd", "date"] := by decide
  have hne : h.entries ≠ [] := by
    rw [hentries]
    exact List.cons_ne_nil _ _
  have hposition : h.position = 0 := by decide
  have hm : min (h.position + (3 : Nat)) ((h.entries.length : Int) - 1) = 1 := by
    rw [hentries, hposition]
    rfl
  have hin : ((1 : Nat) : Int) ≤ min (h.position + (3 : Nat)) ((h.entries.length : Int) - 1) := by
    rw [hm]
    exact Int.le_refl 1
  have hout : min (h.position + (3 : Nat)) ((h.entries.length : Int) - 1) < ((2 : Nat) : Int) := by
    rw [hm]
    decide
  rcases recall_walks 2 [.push "ls", .push "pwd", .push "date", .previous] with ⟨_, _, hwalk⟩
  rcases hwalk hne 3 (by omega) with ⟨⟨_, hthere, hback, _⟩, hforward⟩
  have hone := ((hforward 1 (by omega)).1 hin).2
  have htwo := (hforward 2 (by omega)).2 hout
  refine ⟨hentries, hne, by omega, hposition, hthere, ?_, ?_, htwo⟩
  · rw [← hback, hm, hentries]
    rfl
  · rw [hm, hentries] at hone
    exact (Option.some.inj hone).symm

end History

end SimTerm
