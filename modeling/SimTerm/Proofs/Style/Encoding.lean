import SimTerm.Proofs.Style.Palette
import SimTerm.Proofs.Style.Parameter
import SimTerm.Proofs.Style.Rendering

/-!
# Styled Segments as Text

Segments written back as text, each as the sequence of its style followed by
its characters, and read again.

The text that is written has a layout that can be given outright: an empty
run, then for each segment the sequence of its style with the characters of
the segment as the run behind it. That layout is valid because the characters
come from a literal run and hold no introducer. A segment that ends in the
escape character does no harm, since what follows it is a sequence and not a
bracket. So the rendering is known from the layout, and what is left is that
each sequence sets exactly the style it was written for.

It does so for styles with colours of the palette. `useAll_usesPalette` is
the invariant that makes this enough: whatever a fresh pen has been used for,
also where reading broke off or segments were pulled one at a time, its
colours are from the palette, and so are those of all segments it gives out.

## Main definitions

* `encodeSegments`: The text that writes segments.
* `Pen.Use`, `Pen.useAll`: What a pen can be used for, and the pen after it.
* `Layout.encoding`: The layout of the text that writes segments.

## Theorems

* `obey?_usesPalette`: A control sequence keeps the colours in the palette.
* `useAll_usesPalette`: So does every use of a pen.
* `obey?_codes`: The sequence of a style sets it and nothing else.
* `encoding_divides`: The layout is that of the text.
* `render_encodeSegments`: Segments that were written are read back.
-/

namespace SimTerm

/-- The text that writes segments, each one's style in front of its
    characters. -/
def encodeSegments (segments : List Segment) : String :=
  String.join (segments.map (fun s => s.style.sequence ++ s.text))

theorem encodeSegments_toList_cons (s : Segment) (rest : List Segment) :
    (encodeSegments (s :: rest)).toList
      = '\x1b' :: '[' :: (Style.joinCodes s.style.codes ++ 'm' :: s.text.toList)
        ++ (encodeSegments rest).toList := by
  rw [encodeSegments, List.map_cons, String.join_cons, String.toList_append, String.toList_append,
    Style.sequence, String.toList_ofList, ← encodeSegments]
  simp only [List.cons_append, List.append_assoc, List.nil_append]

namespace Pen

/-- What a pen can be used for. -/
inductive Use where
  /-- All segments of a text are taken. -/
  | render (text : String)
  /-- The first segments of a text are taken, and no more of it is read. -/
  | pull (n : Nat) (text : String)
  /-- The pen becomes a fresh one. -/
  | reset
deriving Repr, DecidableEq

/-- The pen after a use. -/
def use (p : Pen) : Use → Pen
  | .render text => (p.render text).pen
  | .pull n text => (p.pull n text).pen
  | .reset => {}

/-- The pen after uses, one after another. -/
def useAll (p : Pen) (uses : List Use) : Pen := uses.foldl use p

/-- A letter with numbers keeps the colours in the palette. -/
theorem perform_usesPalette (p : Pen) (final : Char) (params : List Nat)
    (hp : p.style.UsesPalette) : (p.perform final params).style.UsesPalette := by
  unfold perform
  split
  case h_1 => exact Style.applyCodes_usesPalette p.style params hp
  all_goals exact hp

/-- A control sequence keeps the colours in the palette. -/
theorem obey?_usesPalette (p p' : Pen) (body : List Char) (final : Char)
    (hp : p.style.UsesPalette) (h : p.obey? body final = some p') : p'.style.UsesPalette := by
  rcases Option.map_eq_some_iff.mp h with ⟨params, _, hp'⟩
  rw [← hp']
  exact perform_usesPalette p final params hp

/-- A rendering keeps the colours in the palette, in the pen and in all
    segments. -/
theorem renderPieces_usesPalette (ps : List Piece) (p : Pen) (hp : p.style.UsesPalette) :
    (p.renderPieces ps).pen.style.UsesPalette ∧
      ∀ s ∈ (p.renderPieces ps).segments, s.style.UsesPalette := by
  induction ps generalizing p with
  | nil => exact ⟨hp, fun s hs => absurd hs List.not_mem_nil⟩
  | cons piece ps ih =>
      cases piece with
      | text cs =>
          refine ⟨(ih p hp).1, fun s hs => ?_⟩
          rcases List.mem_cons.mp hs with rfl | hs
          · exact hp
          · exact (ih p hp).2 s hs
      | control body final =>
          rw [renderPieces]
          -- If the sequence cannot be read, the pen stays and nothing follows.
          cases hobey : p.obey? body final with
          | none => exact ⟨hp, fun s hs => absurd hs List.not_mem_nil⟩
          | some p' => exact ih p' (obey?_usesPalette p p' body final hp hobey)
      | unfinished cs => exact ⟨hp, fun s hs => absurd hs List.not_mem_nil⟩

/-- Pulling some segments keeps the colours of the pen in the palette. -/
theorem pullPieces_usesPalette (ps : List Piece) (p : Pen) (n : Nat) (hp : p.style.UsesPalette) :
    (p.pullPieces n ps).pen.style.UsesPalette := by
  induction ps generalizing p n with
  | nil => cases n <;> exact hp
  | cons piece ps ih =>
      cases n with
      | zero => exact hp
      | succ n =>
          cases piece with
          | text cs => exact ih p n hp
          | control body final =>
              rw [pullPieces]
              cases hobey : p.obey? body final with
              | none => exact hp
              | some p' => exact ih p' (n + 1) (obey?_usesPalette p p' body final hp hobey)
          | unfinished cs => exact hp

/-- Every use of a pen keeps its colours in the palette. -/
theorem use_usesPalette (p : Pen) (u : Use) (hp : p.style.UsesPalette) :
    (p.use u).style.UsesPalette := by
  cases u with
  | render text => exact (renderPieces_usesPalette _ p hp).1
  | pull n text => exact pullPieces_usesPalette _ p n hp
  | reset => exact Style.plain_usesPalette

theorem useAll_usesPalette (uses : List Use) (p : Pen) (hp : p.style.UsesPalette) :
    (p.useAll uses).style.UsesPalette := by
  induction uses generalizing p with
  | nil => exact hp
  | cons u uses ih => exact ih (p.use u) (use_usesPalette p u hp)

/-- The sequence of a style sets it and leaves the cursor where it is. -/
theorem obey?_codes (p : Pen) (s : Style) (hs : s.UsesPalette) :
    p.obey? (Style.joinCodes s.codes) 'm' = some { p with style := s } := by
  have hne : s.codes ≠ [] := by
    simp only [Style.codes, List.cons_append, ne_eq, reduceCtorEq, not_false_eq_true]
  have hshort : ∀ n ∈ s.codes, (Nat.toDigits 10 n).length ≤ Text.maxDigits := by
    intro n hn
    have hlen : (Nat.toDigits 10 n).length ≤ 3 :=
      (Nat.length_toDigits_le_iff (by omega) (by omega)).mpr (s.codes_lt n hn)
    exact Nat.le_trans hlen (by decide)
  rw [obey?, parameters?_joinCodes s.codes hne hshort, Option.map_some, perform,
    s.applyCodes_codes p.style hs]

end Pen

namespace Layout

/-- The layout of a run with written segments behind it. -/
def encoding (run : List Char) : List Segment → Layout
  | [] => .last run none
  | s :: rest => .more run ⟨Style.joinCodes s.style.codes, 'm'⟩ (encoding s.text.toList rest)

theorem encoding_chars (segments : List Segment) (run : List Char) :
    (encoding run segments).chars = run ++ (encodeSegments segments).toList := by
  induction segments generalizing run with
  | nil => rw [encoding, chars, encodeSegments, List.map_nil, String.join_nil, String.toList_empty,
      List.append_nil]
  | cons s rest ih =>
      rw [encoding, chars, ih, encodeSegments_toList_cons, ControlSequence.chars]
      simp only [List.cons_append, List.append_assoc, List.nil_append]

theorem encoding_isValid (segments : List Segment) (run : List Char) (hrun : ¬ HasIntroducer run)
    (hsegs : ∀ s ∈ segments, ¬ HasIntroducer s.text.toList) :
    (encoding run segments).IsValid := by
  induction segments generalizing run with
  | nil => exact (isValid_last_none run).mpr hrun
  | cons s rest ih =>
      have hrest := ih s.text.toList (hsegs s List.mem_cons_self)
        (fun s' hs' => hsegs s' (List.mem_cons_of_mem _ hs'))
      exact (isValid_more run _ _).mpr ⟨hrun, ⟨joinCodes_letterless s.style.codes, rfl⟩, hrest⟩

/-- The layout is that of the text that writes the segments. -/
theorem encoding_divides (segments : List Segment)
    (hsegs : ∀ s ∈ segments, ¬ HasIntroducer s.text.toList) :
    (encoding [] segments).Divides (encodeSegments segments) :=
  ⟨encoding_isValid segments [] not_hasIntroducer_nil hsegs, encoding_chars segments []⟩

/-- Behind the run, the layout writes the segments it was made from. -/
theorem encoding_written (segments : List Segment) (run : List Char) (p : Pen)
    (hne : ∀ s ∈ segments, s.text.toList ≠ []) (hstyle : ∀ s ∈ segments, s.style.UsesPalette) :
    (encoding run segments).written p = p.literal run ++ segments := by
  induction segments generalizing run p with
  | nil => rw [encoding, written_last, List.append_nil]
  | cons s rest ih =>
      have hs : s.text.toList ≠ [] := hne s List.mem_cons_self
      -- The sequence in front has put the pen into the style of the segment.
      have hsegment : ({ p with style := s.style } : Pen).literal s.text.toList = [s] := by
        rw [Pen.literal, if_neg hs, Pen.segment, String.ofList_toList]
      rw [encoding, written_more, p.obey?_codes s.style (hstyle s List.mem_cons_self),
        Option.map_some, Option.getD_some, ih s.text.toList _
          (fun s' hs' => hne s' (List.mem_cons_of_mem _ hs'))
          (fun s' hs' => hstyle s' (List.mem_cons_of_mem _ hs')), hsegment, List.singleton_append]

/-- The sequences of the layout change nothing but the style. -/
theorem encoding_obeyAll? (segments : List Segment) (run : List Char) (p : Pen)
    (hstyle : ∀ s ∈ segments, s.style.UsesPalette) :
    ∃ style, p.obeyAll? (encoding run segments).sequences = some { p with style := style } := by
  induction segments generalizing run p with
  | nil => exact ⟨p.style, p.obeyAll?_nil⟩
  | cons s rest ih =>
      rcases ih s.text.toList { p with style := s.style }
        (fun s' hs' => hstyle s' (List.mem_cons_of_mem _ hs')) with ⟨style, hrest⟩
      refine ⟨style, ?_⟩
      rw [encoding, sequences, Pen.obeyAll?_cons, p.obey?_codes s.style (hstyle s List.mem_cons_self),
        Option.bind_some, hrest]

end Layout

namespace Pen

/-- Segments that a pen gives out, whatever it was used for since it was
    fresh, are read back by any pen from the text that writes them. The
    cursor of that pen stays where it is. -/
theorem render_encodeSegments (uses : List Use) (text : String) (q : Pen) :
    let segments := ((({} : Pen).useAll uses).render text).segments
    (q.render (encodeSegments segments)).brokeOff = false ∧
      (q.render (encodeSegments segments)).segments = segments ∧
      (q.render (encodeSegments segments)).pen.x = q.x ∧
      (q.render (encodeSegments segments)).pen.y = q.y := by
  intro segments
  have hpen : (({} : Pen).useAll uses).style.UsesPalette :=
    useAll_usesPalette uses {} Style.plain_usesPalette
  have hstyle : ∀ s ∈ segments, s.style.UsesPalette := (renderPieces_usesPalette _ _ hpen).2
  -- Each segment is a literal run of the text it came from.
  have hrun : ∀ s ∈ segments, s.text.toList ≠ [] ∧ ¬ HasIntroducer s.text.toList := by
    intro s hs
    rcases Layout.exists_divides text with ⟨d, hd⟩
    have hs : s ∈ d.written (({} : Pen).useAll uses) := by
      rw [← render_segments _ d text hd]
      exact hs
    rcases d.mem_written _ s hs with ⟨run, hmem, hne, htext⟩
    rw [htext, String.toList_ofList]
    exact ⟨hne, hd.1.runs_clean run hmem⟩
  -- So the written text has a known layout, and every pen follows it.
  have hd := Layout.encoding_divides segments (fun s hs => (hrun s hs).2)
  rcases Layout.encoding_obeyAll? segments [] q hstyle with ⟨style, hobey⟩
  have hread : (q.render (encodeSegments segments)).brokeOff = false := by
    rw [← Bool.not_eq_true, q.brokeOff_iff _ _ hd, ← q.obeyAll?_eq_none_iff, hobey]
    exact Option.some_ne_none _
  have hafter := q.render_pen _ _ hd hread
  rw [hobey, Option.some.injEq] at hafter
  refine ⟨hread, ?_, by rw [← hafter], by rw [← hafter]⟩
  rw [q.render_segments _ _ hd, Layout.encoding_written segments [] q (fun s hs => (hrun s hs).1) hstyle]
  rfl

end Pen

end SimTerm
