import SimTerm.Proofs.Style.Layout

/-!
# Renderings Follow Layouts

What a pen makes of a text, told by the layout of the text. The run behind
`i` control sequences is written in the style that the pen has after those
`i`, an empty run is not written at all, and an unfinished sequence at the end
counts for nothing.

`Layout.written` says this run by run, each time with the sequences in front
of it counted from the start. The reader instead carries one pen along, so
`written_more` turns the first form into the second: behind the first
sequence stands what the next pen writes. With it the two agree by induction
on the layout.

A control sequence fails to be read because of its numbers alone. Whether
work breaks off is therefore the same for every pen (`obeyAll?_eq_none_iff`),
and so are the characters of the segments.

## Main definitions

* `Pen.obeyAll?`: The pen after control sequences.
* `Pen.literal`: The segment of a run that is not empty.
* `Layout.written`: The segments of a layout.

## Theorems

* `written_more`: What is written behind the first sequence.
* `renderPieces_segments`: A rendering has the segments of the layout.
* `obeyAll?_sequences`: A rendering has the pen after all sequences, or
  breaks off.
* `written_text`: The characters of the segments are the runs.
* `brokeOff_iff`: Work breaks off at a sequence that cannot be read.
* `render_follows_layout`: A text has one layout, and its rendering follows
  it.
-/

namespace SimTerm

namespace Pen

/-- The pen after control sequences, one after another; nothing if one of
    them cannot be read. -/
def obeyAll? (p : Pen) (gs : List ControlSequence) : Option Pen :=
  gs.foldlM (fun p g => p.obey? g.body g.final) p

/-- A literal run in the style of the pen; the empty run is no segment. -/
def literal (p : Pen) (run : List Char) : List Segment :=
  if run = [] then [] else [p.segment run]

theorem obeyAll?_nil (p : Pen) : p.obeyAll? [] = some p := by
  rw [obeyAll?, List.foldlM_nil]
  rfl

theorem obeyAll?_cons (p : Pen) (g : ControlSequence) (gs : List ControlSequence) :
    p.obeyAll? (g :: gs) = (p.obey? g.body g.final).bind (fun p' => p'.obeyAll? gs) := by
  rw [obeyAll?, List.foldlM_cons]
  rfl

theorem obeyAll?_append (p : Pen) (gs hs : List ControlSequence) :
    p.obeyAll? (gs ++ hs) = (p.obeyAll? gs).bind (fun p' => p'.obeyAll? hs) := by
  rw [obeyAll?, List.foldlM_append]
  rfl

/-- Reading fails because of the numbers and not because of the pen. -/
theorem obey?_eq_none_iff (p : Pen) (body : List Char) (final : Char) :
    p.obey? body final = none ↔ parameters? body = none := by
  rw [obey?, Option.map_eq_none_iff]

theorem obeyAll?_eq_none_iff (p : Pen) (gs : List ControlSequence) :
    p.obeyAll? gs = none ↔ ∃ g ∈ gs, parameters? g.body = none := by
  induction gs generalizing p with
  | nil => simp only [obeyAll?_nil, reduceCtorEq, List.not_mem_nil, false_and, exists_false]
  | cons g gs ih =>
      rw [obeyAll?_cons]
      simp only [List.mem_cons, exists_eq_or_imp]
      cases hg : p.obey? g.body g.final with
      | none =>
          rw [Option.bind_none]
          exact iff_of_true rfl (Or.inl ((p.obey?_eq_none_iff _ _).mp hg))
      | some p' =>
          -- The failure is further on, and which pen gets there is no matter.
          have hparams : ¬ parameters? g.body = none := by
            rw [← p.obey?_eq_none_iff _ g.final, hg]
            exact Option.some_ne_none p'
          rw [Option.bind_some, ih p']
          exact ⟨Or.inr, fun h => h.resolve_left hparams⟩

/-- A literal run in front of pieces adds its segment and nothing else. -/
theorem renderPieces_literal (p : Pen) (run : List Char) (ps : List Piece) :
    p.renderPieces (Piece.literal run ++ ps) =
      { p.renderPieces ps with segments := p.literal run ++ (p.renderPieces ps).segments } := by
  by_cases hrun : run = []
  · rw [hrun, Piece.literal_nil, List.nil_append, literal, if_pos rfl, List.nil_append]
  · rw [Piece.literal_of_ne_nil run hrun, List.singleton_append, renderPieces, Rendering.cons,
      literal, if_neg hrun, List.singleton_append]

end Pen

namespace Layout

/-- The segments of a layout: each run that is not empty, in the style that
    the pen has after the sequences in front of it. -/
def written (d : Layout) (p : Pen) : List Segment :=
  d.runs.zipIdx.flatMap (fun x =>
    ((p.obeyAll? (d.sequences.take x.2)).map (fun p' => p'.literal x.1)).getD [])

theorem written_last (run : List Char) (tail : Option (List Char)) (p : Pen) :
    (last run tail).written p = p.literal run := by
  simp only [written, runs, sequences, List.zipIdx_singleton, List.take_nil, Pen.obeyAll?_nil,
    Option.map_some, Option.getD_some, List.flatMap_cons, List.flatMap_nil, List.append_nil]

/-- Behind the first sequence stands what the pen after it writes. -/
theorem written_more (run : List Char) (g : ControlSequence) (rest : Layout) (p : Pen) :
    (more run g rest).written p =
      p.literal run ++ ((p.obey? g.body g.final).map rest.written).getD [] := by
  rw [written, runs, sequences, List.zipIdx_cons, List.flatMap_cons, List.take_zero,
    Pen.obeyAll?_nil, Option.map_some, Option.getD_some]
  congr 1
  -- Each later run has one more sequence in front of it than in the rest.
  rw [List.zipIdx_succ, List.flatMap_map]
  cases hg : p.obey? g.body g.final with
  | none =>
      simp only [List.take_succ_cons, Pen.obeyAll?_cons, hg, Option.bind_none, Option.map_none,
        Option.getD_none, List.flatMap_eq_nil_iff, implies_true]
  | some p' =>
      simp only [List.take_succ_cons, Pen.obeyAll?_cons, hg, Option.bind_some, Option.map_some,
        Option.getD_some, written]

/-- Whatever is written is a run that is not empty. -/
theorem mem_written (d : Layout) (p : Pen) (s : Segment) (h : s ∈ d.written p) :
    ∃ run ∈ d.runs, run ≠ [] ∧ s.text = String.ofList run := by
  rcases List.mem_flatMap.mp h with ⟨x, hx, hs⟩
  cases hp : p.obeyAll? (d.sequences.take x.2) with
  | none =>
      rw [hp, Option.map_none, Option.getD_none] at hs
      exact absurd hs List.not_mem_nil
  | some p' =>
      rw [hp, Option.map_some, Option.getD_some, Pen.literal] at hs
      by_cases hempty : x.1 = []
      · rw [if_pos hempty] at hs
        exact absurd hs List.not_mem_nil
      · rw [if_neg hempty] at hs
        refine ⟨x.1, List.fst_mem_of_mem_zipIdx hx, hempty, ?_⟩
        rw [List.mem_singleton.mp hs]
        rfl

/-- The last run is written and nothing behind it counts. -/
theorem renderPieces_last (run : List Char) (tail : Option (List Char)) (p : Pen) :
    (p.renderPieces (last run tail).pieces).segments = p.literal run ∧
      (p.renderPieces (last run tail).pieces).pen = p ∧
      (p.renderPieces (last run tail).pieces).brokeOff = false := by
  cases tail with
  | none =>
      have h := p.renderPieces_literal run []
      rw [List.append_nil] at h
      rw [pieces, h, Pen.renderPieces, List.append_nil]
      exact ⟨rfl, rfl, rfl⟩
  | some tail =>
      rw [pieces, p.renderPieces_literal, Pen.renderPieces, List.append_nil]
      exact ⟨rfl, rfl, rfl⟩

/-- A rendering has the segments of the layout. -/
theorem renderPieces_segments (d : Layout) (p : Pen) :
    (p.renderPieces d.pieces).segments = d.written p := by
  induction d generalizing p with
  | last run tail => rw [written_last, (renderPieces_last run tail p).1]
  | more run g rest ih =>
      rw [pieces, p.renderPieces_literal, written_more, Pen.renderPieces]
      -- A sequence that cannot be read ends the rendering and what is written.
      cases hg : p.obey? g.body g.final with
      | none => rw [Option.map_none, Option.getD_none]
      | some p' => rw [ih p', Option.map_some, Option.getD_some]

/-- A rendering has the pen after all sequences, or it breaks off because one
    of them cannot be read. -/
theorem obeyAll?_sequences (d : Layout) (p : Pen) :
    p.obeyAll? d.sequences =
      if (p.renderPieces d.pieces).brokeOff then none
      else some (p.renderPieces d.pieces).pen := by
  induction d generalizing p with
  | last run tail =>
      rcases renderPieces_last run tail p with ⟨_, hpen, hread⟩
      rw [sequences, Pen.obeyAll?_nil, hpen, hread, if_neg Bool.false_ne_true]
  | more run g rest ih =>
      -- The run in front matters neither to the pen nor to the end of work.
      rw [sequences, Pen.obeyAll?_cons, pieces, p.renderPieces_literal, Pen.renderPieces]
      cases hg : p.obey? g.body g.final with
      | none => rw [Option.bind_none, if_pos rfl]
      | some p' => rw [Option.bind_some, ih p']

/-- Where all sequences can be read, the characters of the segments are the
    runs that are not empty. -/
theorem written_text (d : Layout) (p p' : Pen) (h : p.obeyAll? d.sequences = some p') :
    (d.written p).map Segment.text = (d.runs.filter (· ≠ [])).map String.ofList := by
  -- For one run, be it empty or not, both sides agree already.
  have hliteral : ∀ (q : Pen) (run : List Char),
      (q.literal run).map Segment.text = ([run].filter (· ≠ [])).map String.ofList := by
    intro q run
    by_cases hrun : run = []
    · simp [Pen.literal, hrun]
    · simp [Pen.literal, Pen.segment, hrun]
  induction d generalizing p with
  | last run tail => rw [written_last, hliteral, runs]
  | more run g rest ih =>
      rw [sequences, Pen.obeyAll?_cons] at h
      rcases Option.bind_eq_some_iff.mp h with ⟨q, hq, hrest⟩
      have hruns : (more run g rest).runs = [run] ++ rest.runs := rfl
      rw [written_more, hq, Option.map_some, Option.getD_some, List.map_append, hliteral,
        ih q hrest, hruns, List.filter_append, List.map_append]

end Layout

namespace Pen

/-- A rendering of a text is one of its layout. -/
theorem render_of_divides (p : Pen) (d : Layout) (text : String) (hd : d.Divides text) :
    p.render text = p.renderPieces d.pieces := by
  rw [render, ← hd.2, Layout.ofText_chars d hd.1]

theorem render_segments (p : Pen) (d : Layout) (text : String) (hd : d.Divides text) :
    (p.render text).segments = d.written p := by
  rw [p.render_of_divides d text hd, d.renderPieces_segments]

/-- A rendering that is not broken off has the pen after all sequences. -/
theorem render_pen (p : Pen) (d : Layout) (text : String) (hd : d.Divides text)
    (h : (p.render text).brokeOff = false) :
    p.obeyAll? d.sequences = some (p.render text).pen := by
  rw [p.render_of_divides d text hd] at h ⊢
  rw [d.obeyAll?_sequences, h, if_neg Bool.false_ne_true]

/-- Work breaks off exactly at a sequence whose numbers cannot be read. -/
theorem brokeOff_iff (p : Pen) (d : Layout) (text : String) (hd : d.Divides text) :
    (p.render text).brokeOff = true ↔ ∃ g ∈ d.sequences, parameters? g.body = none := by
  rw [← p.obeyAll?_eq_none_iff, d.obeyAll?_sequences, p.render_of_divides d text hd]
  cases (p.renderPieces d.pieces).brokeOff with
  | true => exact iff_of_true rfl (if_pos rfl)
  | false =>
      rw [if_neg Bool.false_ne_true]
      exact iff_of_false Bool.false_ne_true (Option.some_ne_none _)

/-- A text that one pen reads to its end is read to its end by every pen. -/
theorem brokeOff_eq (p q : Pen) (text : String) :
    (p.render text).brokeOff = (q.render text).brokeOff := by
  rcases Layout.exists_divides text with ⟨d, hd⟩
  rw [Bool.eq_iff_iff, p.brokeOff_iff d text hd, q.brokeOff_iff d text hd]

/-- The characters of a rendering are the runs that are not empty. -/
theorem render_text (p : Pen) (d : Layout) (text : String) (hd : d.Divides text)
    (h : (p.render text).brokeOff = false) :
    (p.render text).segments.map Segment.text
      = (d.runs.filter (· ≠ [])).map String.ofList := by
  rw [p.render_segments d text hd, d.written_text p _ (p.render_pen d text hd h)]

/-- A text that is read to its end has exactly one layout, and its rendering
    follows it. The segments are the runs that are not empty, each in the
    style after the sequences in front of it, and the pen is the one after all
    of them; an unfinished sequence at the end adds nothing to either. The
    characters are the same for every pen, and they are what is left of the
    text without its control sequences. -/
theorem render_follows_layout (p : Pen) (text : String) (h : (p.render text).brokeOff = false) :
    ∃ d : Layout, d.Divides text ∧ (∀ d' : Layout, d'.Divides text → d' = d) ∧
      (p.render text).segments = d.written p ∧
      p.obeyAll? d.sequences = some (p.render text).pen ∧
      (p.render text).segments.map Segment.text
        = (d.runs.filter (· ≠ [])).map String.ofList ∧
      strip? text = some (String.join ((p.render text).segments.map Segment.text)) := by
  rcases Layout.exists_divides text with ⟨d, hd⟩
  have htext := p.render_text d text hd h
  have hfresh : (renderFresh text).brokeOff = false := by
    rw [renderFresh, brokeOff_eq _ p, h]
  refine ⟨d, hd, fun d' hd' => Layout.divides_unique d d' text hd hd', p.render_segments d text hd,
    p.render_pen d text hd h, htext, ?_⟩
  -- Stripping writes with a fresh pen, and that one writes the same characters.
  rw [strip?, hfresh, if_neg Bool.false_ne_true, Rendering.text, htext]
  congr 2
  exact render_text {} d text hd hfresh

/-- A run that ends in a stray escape character, a sequence right behind it,
    and an unfinished one at the end. -/
theorem render_stray_escape :
    (({} : Pen).render "a\x1b\x1b[1;4mb\x1b[31").brokeOff = false ∧
      ∃ d : Layout, d.Divides "a\x1b\x1b[1;4mb\x1b[31" ∧
        (({} : Pen).render "a\x1b\x1b[1;4mb\x1b[31").segments = d.written {} := by
  have hread : (({} : Pen).render "a\x1b\x1b[1;4mb\x1b[31").brokeOff = false := by decide
  rcases render_follows_layout {} "a\x1b\x1b[1;4mb\x1b[31" hread with ⟨d, hd, _, hsegments, _⟩
  exact ⟨hread, d, hd, hsegments⟩

end Pen

end SimTerm
