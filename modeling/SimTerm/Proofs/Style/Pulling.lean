import SimTerm.Proofs.Style.Overlong

/-!
# Segments Pulled One at a Time

What a pen has become when only the first segments of a text are pulled.

The pulled segments are the first ones of the whole rendering, and once there
are no more to pull, the rest of the text has been read as well. Both follow
the recursion on pieces and need no layout (`pullPieces_segments`,
`pullPieces_of_lt`).

The pen in between is a matter of places. The last pulled segment is some
literal run of the text, and no control sequence behind it has taken effect, as
a sequence is obeyed only when the next segment is asked for. So the text might
as well end with that run. `Layout.upTo` is the layout of the text that does:
the same runs up to this one, with the same sequences in between and nothing
behind. Rendering it obeys exactly those sequences, and nothing is left in it
that could break off, whatever stands further on in the whole text.

To find the run, `Layout.exists_stopsAt` follows the layout. An empty run is no
segment, so the count goes down only at the others.

## Main definitions

* `Layout.upTo`: A layout up to the end of one of its runs.
* `Layout.StopsAt`: A rendering has come as far as one of the runs.

## Theorems

* `Layout.runs_upTo`, `Layout.sequences_upTo`: What such a layout is made of.
* `Layout.divides_upTo`: It is the layout of the front of the text.
* `pullPieces_segments`: Pulled segments are the first ones of all.
* `pullPieces_of_lt`: Pulling more than there are is reading to the end.
* `Layout.exists_stopsAt`: The run that was pulled last, and the pen there.
* `pull_stops_at_run`: All of it.
* `pull_stops_at_run_overlong`: In front of a sequence that cannot be read.
-/

namespace SimTerm

namespace Layout

/-- A layout up to the end of the run with a number. Behind the last run
    nothing is kept, as an unfinished sequence is no part of it. -/
def upTo : Layout → Nat → Layout
  | .last run _, _ => .last run none
  | .more run _ _, 0 => .last run none
  | .more run g rest, i + 1 => .more run g (rest.upTo i)

theorem runs_upTo (d : Layout) (i : Nat) : (d.upTo i).runs = d.runs.take (i + 1) := by
  induction d generalizing i with
  | last run tail => simp only [upTo, runs, List.take_succ_cons, List.take_nil]
  | more run g rest ih =>
      cases i with
      | zero => simp only [upTo, runs, List.take_succ_cons, List.take_zero]
      | succ i => rw [upTo, runs, runs, ih, List.take_succ_cons]

theorem sequences_upTo (d : Layout) (i : Nat) : (d.upTo i).sequences = d.sequences.take i := by
  induction d generalizing i with
  | last run tail => simp only [upTo, sequences, List.take_nil]
  | more run g rest ih =>
      cases i with
      | zero => simp only [upTo, sequences, List.take_zero]
      | succ i => rw [upTo, sequences, sequences, ih, List.take_succ_cons]

theorem tail?_upTo (d : Layout) (i : Nat) : (d.upTo i).tail? = none := by
  induction d generalizing i with
  | last run tail => rw [upTo, tail?]
  | more run g rest ih =>
      cases i with
      | zero => rw [upTo, tail?]
      | succ i => rw [upTo, tail?, ih]

/-- The front of a valid layout is valid. -/
theorem isValid_upTo (d : Layout) (i : Nat) (hd : d.IsValid) : (d.upTo i).IsValid := by
  refine ⟨fun run hrun => ?_, fun g hg => ?_, fun tail htail => ?_⟩
  · rw [runs_upTo] at hrun
    exact hd.runs_clean run (List.mem_of_mem_take hrun)
  · rw [sequences_upTo] at hg
    exact hd.sequences_complete g (List.mem_of_mem_take hg)
  · rw [tail?_upTo] at htail
    exact absurd htail (Option.not_mem_none tail)

/-- The characters up to the end of a run end with the run, and those of the
    whole layout begin with them. -/
theorem chars_upTo (d : Layout) (i : Nat) (run : List Char) (h : d.runs[i]? = some run) :
    ∃ before after, (d.upTo i).chars = before ++ run ∧ d.chars = before ++ (run ++ after) := by
  induction d generalizing i with
  | last first tail =>
      cases i with
      | zero =>
          rw [runs, List.getElem?_cons_zero, Option.some.injEq] at h
          rw [upTo, chars, h]
          cases tail with
          | none => exact ⟨[], [], rfl, by rw [chars, List.nil_append, List.append_nil]⟩
          | some tail => exact ⟨[], _, rfl, by rw [chars, List.nil_append]⟩
      | succ i => exact absurd h (by simp [runs])
  | more first g rest ih =>
      cases i with
      | zero =>
          rw [runs, List.getElem?_cons_zero, Option.some.injEq] at h
          rw [upTo, chars, h]
          exact ⟨[], _, rfl, by rw [chars, List.nil_append]⟩
      | succ i =>
          rw [runs, List.getElem?_cons_succ] at h
          rcases ih i h with ⟨before, after, hfront, hall⟩
          refine ⟨first ++ (g.chars ++ before), after, ?_, ?_⟩
          · rw [upTo, chars, hfront]
            simp only [List.append_assoc]
          · rw [chars, hall]
            simp only [List.append_assoc]

/-- A text up to the end of one of its runs has the layout up to there. -/
theorem divides_upTo (d : Layout) (text : String) (hd : d.Divides text) (i : Nat)
    (run : List Char) (h : d.runs[i]? = some run) :
    ∃ before after, text.toList = before ++ (run ++ after) ∧
      (d.upTo i).Divides (String.ofList (before ++ run)) := by
  rcases chars_upTo d i run h with ⟨before, after, hfront, hall⟩
  refine ⟨before, after, by rw [← hd.2, hall], isValid_upTo d i hd.1, ?_⟩
  rw [hfront, String.toList_ofList]

end Layout

namespace Pen

/-- What is pulled are the first segments. -/
theorem pullPieces_segments (p : Pen) (n : Nat) (ps : List Piece) :
    (p.pullPieces n ps).segments = (p.renderPieces ps).segments.take n := by
  -- A literal piece counts as one segment, and the other pieces do not count.
  induction ps generalizing p n with
  | nil => cases n <;> rfl
  | cons piece rest ih =>
      cases n with
      | zero => rw [pullPieces, List.take_zero]
      | succ n =>
          cases piece with
          | text cs =>
              rw [pullPieces, renderPieces, Rendering.cons, Rendering.cons, ih,
                List.take_succ_cons]
          | control body final =>
              rw [pullPieces, renderPieces]
              cases p.obey? body final with
              | none => rw [List.take_nil]
              | some p' => exact ih p' (n + 1)
          | unfinished cs => rw [pullPieces, renderPieces, List.take_nil]

/-- With fewer segments than were asked for, all has been read. -/
theorem pullPieces_of_lt (p : Pen) (n : Nat) (ps : List Piece)
    (h : (p.renderPieces ps).segments.length < n) : p.pullPieces n ps = p.renderPieces ps := by
  induction ps generalizing p n with
  | nil => cases n <;> rfl
  | cons piece rest ih =>
      cases n with
      | zero => exact absurd h (Nat.not_lt_zero _)
      | succ n =>
          cases piece with
          | text cs =>
              rw [renderPieces, Rendering.cons, List.length_cons, Nat.add_lt_add_iff_right] at h
              rw [pullPieces, renderPieces, ih p n h]
          | control body final =>
              rw [renderPieces] at h
              rw [pullPieces, renderPieces]
              cases hg : p.obey? body final with
              | none => rfl
              | some p' =>
                  rw [hg] at h
                  exact ih p' (n + 1) h
          | unfinished cs => rw [pullPieces, renderPieces]

/-- As long as there is a segment to pull, nothing breaks off and nothing is
    dropped. -/
theorem pullPieces_of_le (p : Pen) (n : Nat) (ps : List Piece)
    (h : n ≤ (p.renderPieces ps).segments.length) :
    (p.pullPieces n ps).brokeOff = false ∧ (p.pullPieces n ps).dropped = none := by
  induction ps generalizing p n with
  | nil => cases n <;> exact ⟨rfl, rfl⟩
  | cons piece rest ih =>
      cases n with
      | zero => exact ⟨rfl, rfl⟩
      | succ n =>
          cases piece with
          | text cs =>
              rw [renderPieces, Rendering.cons, List.length_cons, Nat.add_le_add_iff_right] at h
              exact ih p n h
          | control body final =>
              rw [renderPieces] at h
              rw [pullPieces]
              cases hg : p.obey? body final with
              | none =>
                  rw [hg] at h
                  exact absurd h (Nat.not_succ_le_zero n)
              | some p' =>
                  rw [hg] at h
                  exact ih p' (n + 1) h
          | unfinished cs => exact absurd h (Nat.not_succ_le_zero n)

/-- A literal run in front of pieces is the next segment, unless it is empty. -/
theorem pullPieces_literal (p : Pen) (n : Nat) (run : List Char) (ps : List Piece) :
    p.pullPieces (n + 1) (Piece.literal run ++ ps) =
      if run = [] then p.pullPieces (n + 1) ps else (p.pullPieces n ps).cons (p.segment run) := by
  by_cases hrun : run = []
  · rw [if_pos hrun, hrun, Piece.literal_nil, List.nil_append]
  · rw [if_neg hrun, Piece.literal_of_ne_nil run hrun, List.singleton_append, pullPieces]

end Pen

namespace Layout

/-- A rendering stops at the run with the number `i`, the `n`-th one that is not
    empty. -/
structure StopsAt (d : Layout) (p : Pen) (n i : Nat) (run : List Char) (r : Rendering) :
    Prop where
  /-- The run has the number `i`. -/
  run_eq : d.runs[i]? = some run
  /-- It is not empty. -/
  run_ne : run ≠ []
  /-- It is the `n`-th one of those. -/
  count : ((d.runs.take (i + 1)).filter (· ≠ [])).length = n
  /-- The pen has obeyed the control sequences in front of the run, and no more. -/
  pen : p.obeyAll? (d.sequences.take i) = some r.pen
  /-- The run is the last segment. -/
  last : r.segments.getLast? = some (r.pen.segment run)

/-- Behind an empty run and a control sequence it is the next pen that stops. -/
theorem StopsAt.behind_nil (p p' : Pen) (g : ControlSequence) (rest : Layout) (n i : Nat)
    (run : List Char) (r : Rendering) (hg : p.obey? g.body g.final = some p')
    (h : rest.StopsAt p' n i run r) : (more [] g rest).StopsAt p n (i + 1) run r where
  run_eq := h.run_eq
  run_ne := h.run_ne
  count := h.count
  pen := by rw [sequences, List.take_succ_cons, Pen.obeyAll?_cons, hg, Option.bind_some, h.pen]
  last := h.last

/-- Behind a run that is a segment it does so, too, with one segment more. -/
theorem StopsAt.behind_run (p p' : Pen) (first : List Char) (g : ControlSequence) (rest : Layout)
    (n i : Nat) (run : List Char) (r : Rendering) (hfirst : first ≠ [])
    (hg : p.obey? g.body g.final = some p') (h : rest.StopsAt p' n i run r) :
    (more first g rest).StopsAt p (n + 1) (i + 1) run (r.cons (p.segment first)) where
  run_eq := h.run_eq
  run_ne := h.run_ne
  count := by
    rw [runs, List.take_succ_cons, List.filter_cons_of_pos (by simpa using hfirst),
      List.length_cons, h.count]
  pen := by
    rw [sequences, List.take_succ_cons, Pen.obeyAll?_cons, hg, Option.bind_some, h.pen]
    rfl
  last := by
    rw [Rendering.cons, List.getLast?_cons, h.last, Option.getD_some]

/-- Pulling stops at a run if there are as many segments as are pulled. -/
theorem exists_stopsAt (d : Layout) (p : Pen) (n : Nat)
    (h : n < (p.renderPieces d.pieces).segments.length) :
    ∃ i run, d.StopsAt p (n + 1) i run (p.pullPieces (n + 1) d.pieces) := by
  induction d generalizing p n with
  | last run tail =>
      rw [(renderPieces_last run tail p).1, Pen.literal] at h
      by_cases hrun : run = []
      · rw [if_pos hrun] at h
        exact absurd h (Nat.not_lt_zero n)
      · rw [if_neg hrun, List.length_singleton, Nat.lt_one_iff] at h
        have hpieces : ∃ ps, (last run tail).pieces = Piece.literal run ++ ps := by
          cases tail with
          | none => exact ⟨[], (List.append_nil _).symm⟩
          | some tail => exact ⟨_, rfl⟩
        rcases hpieces with ⟨ps, hps⟩
        rw [h, hps, p.pullPieces_literal, if_neg hrun, Pen.pullPieces]
        refine ⟨0, run, rfl, hrun, ?_, p.obeyAll?_nil, rfl⟩
        rw [runs, List.take_succ_cons, List.filter_cons_of_pos (by simpa using hrun)]
        rfl
  | more first g rest ih =>
      rw [pieces, p.renderPieces_literal, List.length_append, Pen.renderPieces] at h
      rw [pieces, p.pullPieces_literal]
      by_cases hfirst : first = []
      · -- The first segment is still to come.
        rw [hfirst, Pen.literal, if_pos rfl, List.length_nil, Nat.zero_add] at h
        rw [if_pos hfirst, Pen.pullPieces, hfirst]
        cases hg : p.obey? g.body g.final with
        | none =>
            rw [hg] at h
            exact absurd h (Nat.not_lt_zero n)
        | some p' =>
            rw [hg] at h
            rcases ih p' n h with ⟨i, run, hstops⟩
            exact ⟨i + 1, run, hstops.behind_nil p p' g rest (n + 1) i run _ hg⟩
      · rw [Pen.literal, if_neg hfirst, List.length_singleton] at h
        rw [if_neg hfirst]
        cases n with
        | zero =>
            -- It is the first run, and nothing behind it is read.
            rw [Pen.pullPieces]
            refine ⟨0, first, rfl, hfirst, ?_, p.obeyAll?_nil, rfl⟩
            rw [runs, List.take_succ_cons, List.filter_cons_of_pos (by simpa using hfirst)]
            rfl
        | succ n =>
            rw [Pen.pullPieces]
            cases hg : p.obey? g.body g.final with
            | none =>
                rw [hg] at h
                exact absurd h (by simp)
            | some p' =>
                rw [hg] at h
                have hmore : n + 1 < 1 + (p'.renderPieces rest.pieces).segments.length := h
                rcases ih p' n (by omega) with ⟨i, run, hstops⟩
                exact ⟨i + 1, run, hstops.behind_run p p' first g rest (n + 1) i run _ hfirst hg⟩

end Layout

namespace Pen

/-- Pulling segments of a text stops at the end of a literal run. The pulled
    segments are the first ones of the whole rendering. If there are as many as
    were asked for, the last of them is a run of the text's layout, and the pen
    is the one that reads the text up to the end of that run: it has obeyed the
    control sequences in front of the run and none behind it, whether or not
    those can be read. If there are fewer, all of the text has been read. -/
theorem pull_stops_at_run (p : Pen) (text : String) (n : Nat) (hn : 1 ≤ n) :
    (p.pull n text).segments = (p.render text).segments.take n ∧
    (n ≤ (p.render text).segments.length →
      ∃ (d : Layout) (i : Nat) (run before after : List Char),
        d.Divides text ∧ d.StopsAt p n i run (p.pull n text) ∧
        text.toList = before ++ (run ++ after) ∧
        (d.upTo i).Divides (String.ofList (before ++ run)) ∧
        (p.render (String.ofList (before ++ run))).brokeOff = false ∧
        (p.pull n text).pen = (p.render (String.ofList (before ++ run))).pen ∧
        (p.pull n text).brokeOff = false ∧ (p.pull n text).dropped = none) ∧
    ((p.render text).segments.length < n → p.pull n text = p.render text) := by
  refine ⟨p.pullPieces_segments n _, fun h => ?_, fun h => p.pullPieces_of_lt n _ h⟩
  rcases p.pullPieces_of_le n _ h with ⟨hread, hdropped⟩
  rcases Layout.exists_divides text with ⟨d, hd⟩
  rcases Nat.exists_eq_add_of_le' hn with ⟨m, rfl⟩
  rw [p.render_of_divides d text hd] at h
  rcases d.exists_stopsAt p m h with ⟨i, run, hstops⟩
  rw [← Layout.ofText_chars d hd.1, hd.2, ← pull] at hstops
  rcases d.divides_upTo text hd i run hstops.run_eq with ⟨before, after, htext, hfront⟩
  refine ⟨d, i, run, before, after, hd, hstops, htext, hfront, ?_⟩
  -- The text up to the run has the same sequences in front of it, and no others.
  have hobeyed := (d.upTo i).obeyAll?_sequences p
  rw [d.sequences_upTo, hstops.pen, ← p.render_of_divides _ _ hfront] at hobeyed
  split at hobeyed
  case isTrue => exact absurd hobeyed (Option.some_ne_none _)
  case isFalse hwhole =>
    exact ⟨(Bool.not_eq_true _).mp hwhole, Option.some.inj hobeyed, hread, hdropped⟩

/-- Two segments in front of a sequence with too many zeros. Reading the whole
    text breaks off there, and pulling the two does not get so far. -/
theorem pull_stops_at_run_overlong :
    let text := String.ofList
      ("a\x1b[31mb\x1b[".toList ++ (List.replicate 4301 '0' ++ "mc".toList))
    1 ≤ 2 ∧ 2 ≤ (({} : Pen).render text).segments.length ∧
      (({} : Pen).render text).brokeOff = true ∧ (({} : Pen).pull 2 text).brokeOff = false ∧
      ∃ (d : Layout) (i : Nat) (run before after : List Char),
        d.Divides text ∧ d.StopsAt {} 2 i run (({} : Pen).pull 2 text) ∧
        text.toList = before ++ (run ++ after) ∧
        (({} : Pen).pull 2 text).pen = (({} : Pen).render (String.ofList (before ++ run))).pen := by
  intro text
  have hd : (Layout.more ['a'] ⟨['3', '1'], 'm'⟩
      (.more ['b'] ⟨List.replicate 4301 '0', 'm'⟩ (.last ['c'] none))).Divides text := by
    refine ⟨?_, ?_⟩
    · rw [Layout.isValid_more, Layout.isValid_more, Layout.isValid_last_none]
      exact ⟨by decide, by decide, by decide, isComplete_zeros 4301, by decide⟩
    · rw [String.toList_ofList]
      simp only [Layout.chars, ControlSequence.chars, List.cons_append, List.nil_append,
        List.append_assoc]
      rfl
  have hred : ({} : Pen).obey? ['3', '1'] 'm' =
      some { style := { foreground := some "#ff0000" } } := by decide
  have htwo : 2 ≤ (({} : Pen).render text).segments.length := by
    rw [render_segments _ _ text hd, Layout.written_more, hred, Option.map_some, Option.getD_some,
      Layout.written_more, List.length_append, List.length_append]
    have hone : ∀ (q : Pen) (c : Char), (q.literal [c]).length = 1 := fun _ _ => rfl
    rw [hone, hone]
    omega
  have hbroke : (({} : Pen).render text).brokeOff = true :=
    (brokeOff_iff _ _ text hd).mpr ⟨⟨List.replicate 4301 '0', 'm'⟩,
      List.mem_cons_of_mem _ List.mem_cons_self, parameters?_zeros 4301 (by decide)⟩
  rcases pull_stops_at_run {} text 2 (by decide) with ⟨_, hstops, _⟩
  rcases hstops htwo with ⟨d, i, run, before, after, hdivides, hrun, htext, _, _, hpen, hread, _⟩
  exact ⟨by decide, htwo, hbroke, hread, d, i, run, before, after, hdivides, hrun, htext, hpen⟩

end Pen

end SimTerm
