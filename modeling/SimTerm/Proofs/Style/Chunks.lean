import SimTerm.Proofs.Style.Rendering

/-!
# Texts in Chunks

What a pen writes of a text does not depend on where the text is cut.

A text can arrive in chunks, and the pen that one chunk leaves writes the next.
The segments may then be other ones, since a cut inside a literal run makes two
segments of it. The characters with their styles are the same (`render_append`),
and so is the pen at the end.

There are two places where a cut changes what is written, and both are cuts
through a control sequence. Behind the introducer the rest of the sequence
would arrive as literal characters, which is why the first chunk must not end
inside a sequence. Between the two characters of the introducer the first of
them would be taken for a literal character, which is why the chunks must not
meet there.

The argument is about layouts and not about the reader. Two layouts are joined
by putting the last run of the one in front of the first run of the other
(`join`). The joint run is clean because the chunks do not meet, so the result
is a valid layout of the whole text (`divides_join`), and it is the only one
that there is. What it writes is what its two parts write.

## Main definitions

* `characters`: The characters of some segments, each with its style.
* `EndsInside`: A text that ends in an unfinished control sequence.
* `Layout.join`: Two layouts as one.

## Theorems

* `divides_join`: A joint layout is one of the joint text.
* `characters_written_join`: What it writes.
* `render_append`: A text is written like its two chunks.
-/

namespace SimTerm

/-- The characters of some segments, each with the style it is written in. -/
def characters (segments : List Segment) : List (Char × Style) :=
  segments.flatMap (fun s => s.text.toList.map (fun c => (c, s.style)))

/-- A text that ends in a control sequence that is not finished. -/
def EndsInside (text : String) : Prop := ∃ d : Layout, d.Divides text ∧ d.tail? ≠ none

theorem characters_append (ss ts : List Segment) :
    characters (ss ++ ts) = characters ss ++ characters ts := by
  rw [characters, List.flatMap_append, characters, characters]

/-- The characters of a literal run, be it empty or not. -/
theorem characters_literal (p : Pen) (run : List Char) :
    characters (p.literal run) = run.map (fun c => (c, p.style)) := by
  by_cases hrun : run = []
  · rw [Pen.literal, if_pos hrun, hrun]
    rfl
  · rw [Pen.literal, if_neg hrun, characters, List.flatMap_cons, List.flatMap_nil, List.append_nil,
      Pen.segment, String.toList_ofList]

namespace Layout

/-- The run in front of the first control sequence. -/
def firstRun : Layout → List Char
  | .last run _ => run
  | .more run _ _ => run

/-- A layout and behind it another one, with the two runs at the joint as one. -/
def join : Layout → Layout → Layout
  | .last run _, e => e.withRun (run ++ e.firstRun)
  | .more run g rest, e => .more run g (rest.join e)

/-! ### The joint layout -/

theorem chars_withRun (run : List Char) (e : Layout) :
    (e.withRun (run ++ e.firstRun)).chars = run ++ e.chars := by
  cases e with
  | last first tail =>
      cases tail with
      | none => rfl
      | some tail => simp only [withRun, firstRun, chars, List.append_assoc]
  | more first g rest => simp only [withRun, firstRun, chars, List.append_assoc]

theorem chars_join (d e : Layout) (hd : d.tail? = none) : (d.join e).chars = d.chars ++ e.chars := by
  induction d with
  | last run tail =>
      rw [tail?] at hd
      rw [hd, join, chars_withRun, chars]
  | more run g rest ih =>
      rw [join, chars, ih hd, chars]
      simp only [List.append_assoc]

theorem sequences_join (d e : Layout) : (d.join e).sequences = d.sequences ++ e.sequences := by
  induction d with
  | last run tail => cases e <;> rfl
  | more run g rest ih => rw [join, sequences, ih, sequences, List.cons_append]

/-- A text begins like its first run, unless that is empty. -/
theorem head?_chars (e : Layout) (c : Char) (h : e.firstRun.head? = some c) :
    e.chars.head? = some c := by
  rcases List.head?_eq_some_iff.mp h with ⟨cs, hcs⟩
  cases e with
  | last first tail =>
      rw [firstRun] at hcs
      cases tail with
      | none => rw [chars, hcs, List.head?_cons]
      | some tail => rw [chars, hcs, List.cons_append, List.head?_cons]
  | more first g rest =>
      rw [firstRun] at hcs
      rw [chars, hcs, List.cons_append, List.head?_cons]

theorem isValid_withRun (e : Layout) (run : List Char) (he : e.IsValid)
    (hrun : ¬ HasIntroducer run) : (e.withRun run).IsValid := by
  cases e with
  | last first tail =>
      cases tail with
      | none => exact (isValid_last_none run).mpr hrun
      | some tail =>
          exact (isValid_last_some run tail).mpr ⟨hrun, ((isValid_last_some first tail).mp he).2⟩
  | more first g rest =>
      exact (isValid_more run g rest).mpr ⟨hrun, ((isValid_more first g rest).mp he).2⟩

theorem firstRun_clean (e : Layout) (he : e.IsValid) : ¬ HasIntroducer e.firstRun := by
  refine he.runs_clean _ ?_
  cases e <;> exact List.mem_cons_self

/-- Two valid layouts of texts that do not meet make a valid one. -/
theorem isValid_join (d e : Layout) (hd : d.IsValid) (he : e.IsValid) (hend : d.tail? = none)
    (hmeet : ¬ Meets d.chars e.chars) : (d.join e).IsValid := by
  induction d with
  | last run tail =>
      rw [tail?] at hend
      rw [hend] at hd hmeet
      refine isValid_withRun e _ he ?_
      -- The joint run is clean: its parts are, and they do not meet.
      rw [hasIntroducer_append, not_or, not_or]
      refine ⟨(isValid_last_none run).mp hd, firstRun_clean e he, fun h => hmeet ?_⟩
      exact ⟨h.1, e.head?_chars _ h.2⟩
  | more run g rest ih =>
      rcases (isValid_more run g rest).mp hd with ⟨hrun, hg, hrest⟩
      refine (isValid_more run g _).mpr ⟨hrun, hg, ih hrest hend fun h => hmeet ⟨?_, h.2⟩⟩
      -- What the rest ends with, the whole ends with.
      rw [chars, List.getLast?_append, List.getLast?_append, h.1]
      rfl

/-- A joint layout is one of the joint text. -/
theorem divides_join (d e : Layout) (a b : String) (hd : d.Divides a) (he : e.Divides b)
    (hend : d.tail? = none) (hmeet : ¬ Meets a.toList b.toList) : (d.join e).Divides (a ++ b) := by
  rw [← hd.2, ← he.2] at hmeet
  refine ⟨isValid_join d e hd.1 he.1 hend hmeet, ?_⟩
  rw [chars_join d e hend, hd.2, he.2, String.toList_append]

/-! ### What it writes -/

/-- A longer first run adds its characters in front. -/
theorem characters_written_withRun (run : List Char) (e : Layout) (p : Pen) :
    characters ((e.withRun (run ++ e.firstRun)).written p) =
      characters (p.literal run) ++ characters (e.written p) := by
  have hruns : ∀ first, characters (p.literal (run ++ first)) =
      characters (p.literal run) ++ characters (p.literal first) := by
    intro first
    rw [characters_literal, characters_literal, characters_literal, List.map_append]
  cases e with
  | last first tail => rw [withRun, firstRun, written_last, written_last, hruns]
  | more first g rest =>
      rw [withRun, firstRun, written_more, written_more, characters_append, characters_append,
        hruns, List.append_assoc]

/-- A joint layout writes what the first one writes, and then what the second
    one does with the pen from there. -/
theorem characters_written_join (d e : Layout) (p p' : Pen)
    (hp : p.obeyAll? d.sequences = some p') :
    characters ((d.join e).written p) =
      characters (d.written p) ++ characters (e.written p') := by
  induction d generalizing p with
  | last run tail =>
      rw [sequences, Pen.obeyAll?_nil, Option.some.injEq] at hp
      rw [join, characters_written_withRun, written_last, hp]
  | more run g rest ih =>
      rw [sequences, Pen.obeyAll?_cons] at hp
      rcases Option.bind_eq_some_iff.mp hp with ⟨q, hq, hrest⟩
      simp only [join, written_more, hq, Option.map_some, Option.getD_some, characters_append,
        ih q hrest, List.append_assoc]

end Layout

namespace Pen

/-- Let a text be cut where the first chunk does not end inside a control
    sequence, and not between the two characters that introduce one. Then work
    breaks off at the text exactly if it does at one of the chunks. If it does
    not, the characters of the text with their styles are those of the first
    chunk and then those that the pen from there writes of the second, and the
    pen at the end is the same. -/
theorem render_append (p : Pen) (a b : String) (hend : ¬ EndsInside a)
    (hmeet : ¬ Meets a.toList b.toList) :
    ((p.render (a ++ b)).brokeOff =
      ((p.render a).brokeOff || ((p.render a).pen.render b).brokeOff)) ∧
    ((p.render (a ++ b)).brokeOff = false →
      characters (p.render (a ++ b)).segments =
        characters (p.render a).segments ++
          characters ((p.render a).pen.render b).segments ∧
      (p.render (a ++ b)).pen = ((p.render a).pen.render b).pen) := by
  rcases Layout.exists_divides a with ⟨d, hd⟩
  rcases Layout.exists_divides b with ⟨e, he⟩
  have htail : d.tail? = none := by
    by_contra htail
    exact hend ⟨d, hd, htail⟩
  have hjoin := Layout.divides_join d e a b hd he htail hmeet
  have hbroke : (p.render (a ++ b)).brokeOff =
      ((p.render a).brokeOff || ((p.render a).pen.render b).brokeOff) := by
    rw [Bool.eq_iff_iff, Bool.or_eq_true, p.brokeOff_iff _ _ hjoin, p.brokeOff_iff d a hd,
      (p.render a).pen.brokeOff_iff e b he, Layout.sequences_join]
    simp only [List.mem_append, or_and_right, exists_or]
  refine ⟨hbroke, fun hread => ?_⟩
  have hboth := hread
  rw [hbroke, Bool.or_eq_false_iff] at hboth
  -- The pen between the chunks is the one after the sequences of the first.
  have hpen := p.render_pen d a hd hboth.1
  refine ⟨?_, ?_⟩
  · rw [p.render_segments _ _ hjoin, p.render_segments d a hd,
      (p.render a).pen.render_segments e b he, Layout.characters_written_join d e p _ hpen]
  · have hwhole := p.render_pen _ _ hjoin hread
    rw [Layout.sequences_join, obeyAll?_append, hpen, Option.bind_some,
      (p.render a).pen.render_pen e b he hboth.2, Option.some.injEq] at hwhole
    exact hwhole.symm

/-- A cut behind a stray escape character, where a control sequence follows. -/
theorem render_append_stray :
    ¬ EndsInside "x\x1b[1my\x1b" ∧
      ¬ Meets "x\x1b[1my\x1b".toList "\x1b[4mz\x1b[3".toList ∧
      (({} : Pen).render ("x\x1b[1my\x1b" ++ "\x1b[4mz\x1b[3")).brokeOff = false ∧
      characters (({} : Pen).render ("x\x1b[1my\x1b" ++ "\x1b[4mz\x1b[3")).segments =
        characters (({} : Pen).render "x\x1b[1my\x1b").segments ++
          characters ((({} : Pen).render "x\x1b[1my\x1b").pen.render "\x1b[4mz\x1b[3").segments := by
  have hend : ¬ EndsInside "x\x1b[1my\x1b" := by
    rintro ⟨d, hd, htail⟩
    have hlayout : (Layout.more ['x'] ⟨['1'], 'm'⟩ (.last ['y', '\x1b'] none)).Divides
        "x\x1b[1my\x1b" := by decide
    rw [Layout.divides_unique _ d _ hlayout hd] at htail
    exact htail rfl
  have hmeet : ¬ Meets "x\x1b[1my\x1b".toList "\x1b[4mz\x1b[3".toList := by decide
  have hread : (({} : Pen).render ("x\x1b[1my\x1b" ++ "\x1b[4mz\x1b[3")).brokeOff = false := by
    decide
  exact ⟨hend, hmeet, hread, ((render_append {} _ _ hend hmeet).2 hread).1⟩

/-! At the two other kinds of cuts the characters are not the same. -/

example :
    characters (({} : Pen).render ("\x1b[1" ++ "mX")).segments ≠
      characters (({} : Pen).render "\x1b[1").segments ++
        characters ((({} : Pen).render "\x1b[1").pen.render "mX").segments := by
  decide

example :
    characters (({} : Pen).render ("\x1b" ++ "[1mX")).segments ≠
      characters (({} : Pen).render "\x1b").segments ++
        characters ((({} : Pen).render "\x1b").pen.render "[1mX").segments := by
  decide

end Pen

end SimTerm
