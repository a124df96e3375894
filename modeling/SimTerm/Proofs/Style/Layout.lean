import SimTerm.Proofs.Style.Introducer
import SimTerm.Style.Segment

/-!
# Layouts of Texts with Control Sequences

The grammar that the reader of control sequences implements, said without the
reader. A layout is a literal run, then any number of complete control
sequences with a literal run behind each, and perhaps one unfinished sequence
at the end. `Layout.IsValid` says what makes the parts what they are called:
no run holds an introducer, no body holds a letter, and an unfinished
sequence never gets one.

Every text has a layout, by induction on its length: cut at the first
introducer, then at the first letter behind it. It has only one, and the
reader is the proof of that. `ofText_chars` says that the reader turns the
characters of a valid layout into the pieces of that layout, and
`ofPieces_pieces` that a layout is recovered from its pieces, so two layouts
of one text are the same. A stray escape character at the end of a run needs
no case of its own, because what follows a run starts with an escape
character and never with a bracket.

## Main definitions

* `ControlSequence`: A body and the letter that ends it.
* `Layout`: Literal runs with control sequences between them.
* `Layout.IsValid`: The parts are what the grammar says.
* `Layout.Divides`: A valid layout of a text.
* `Layout.pieces`: What a reader should make of a layout.
* `Layout.ofPieces`: The layout behind pieces.

## Theorems

* `afterText_run`: The reader takes a clean run as one piece.
* `afterBracket_body`: The reader takes a body up to its letter.
* `ofText_chars`: The reader recovers the pieces of a valid layout.
* `ofPieces_pieces`: A layout is recovered from its pieces.
* `exists_divides`: Every text has a layout.
* `divides_unique`: No text has two.
-/

namespace SimTerm

/-- Decided by a walk along the list. It must not be left to a walk over all
    characters there are. -/
instance decidableLetterless (cs : List Char) : Decidable (∀ c ∈ cs, c.isAlpha = false) :=
  List.decidableBAll _ _

/-- A control sequence that ends: what stands between the bracket and the
    letter, and the letter. -/
structure ControlSequence where
  /-- What stands between the bracket and the letter. -/
  body : List Char
  /-- The letter. -/
  final : Char
deriving Repr, DecidableEq

namespace ControlSequence

/-- The characters of a control sequence. -/
def chars (g : ControlSequence) : List Char := '\x1b' :: '[' :: (g.body ++ [g.final])

/-- The sequence ends at its first ASCII letter. -/
structure IsComplete (g : ControlSequence) : Prop where
  /-- No letter comes before the last character. -/
  body_letterless : ∀ c ∈ g.body, c.isAlpha = false
  /-- The last character is one. -/
  final_isAlpha : g.final.isAlpha = true

instance (g : ControlSequence) : Decidable g.IsComplete :=
  decidable_of_iff ((∀ c ∈ g.body, c.isAlpha = false) ∧ g.final.isAlpha = true)
    ⟨fun h => ⟨h.1, h.2⟩, fun h => ⟨h.body_letterless, h.final_isAlpha⟩⟩

end ControlSequence

/-- Literal runs with control sequences between them. -/
inductive Layout where
  /-- The last run, and what stands behind the introducer of an unfinished
      control sequence if there is one. -/
  | last (run : List Char) (tail : Option (List Char))
  /-- A run, the control sequence that ends it, and the rest. -/
  | more (run : List Char) (g : ControlSequence) (rest : Layout)
deriving Repr, DecidableEq

namespace Layout

/-- The characters of all parts. -/
def chars : Layout → List Char
  | .last run none => run
  | .last run (some tail) => run ++ '\x1b' :: '[' :: tail
  | .more run g rest => run ++ (g.chars ++ rest.chars)

/-- The literal runs in order, one more than there are sequences. -/
def runs : Layout → List (List Char)
  | .last run _ => [run]
  | .more run _ rest => run :: rest.runs

/-- The complete control sequences in order. -/
def sequences : Layout → List ControlSequence
  | .last _ _ => []
  | .more _ g rest => g :: rest.sequences

/-- What stands behind the introducer of the unfinished sequence. -/
def tail? : Layout → Option (List Char)
  | .last _ tail => tail
  | .more _ _ rest => rest.tail?

/-- The parts of a layout are what the grammar says. -/
structure IsValid (d : Layout) : Prop where
  /-- A literal run holds no introducer. -/
  runs_clean : ∀ run ∈ d.runs, ¬ HasIntroducer run
  /-- A control sequence ends at its first letter. -/
  sequences_complete : ∀ g ∈ d.sequences, g.IsComplete
  /-- An unfinished sequence has no letter up to the end. -/
  tail_letterless : ∀ tail ∈ d.tail?, ∀ c ∈ tail, c.isAlpha = false

instance (d : Layout) : Decidable d.IsValid :=
  decidable_of_iff ((∀ run ∈ d.runs, ¬ HasIntroducer run) ∧ (∀ g ∈ d.sequences, g.IsComplete) ∧
      ∀ tail ∈ d.tail?, ∀ c ∈ tail, c.isAlpha = false)
    ⟨fun h => ⟨h.1, h.2.1, h.2.2⟩,
      fun h => ⟨h.runs_clean, h.sequences_complete, h.tail_letterless⟩⟩

/-- A valid layout of a text. -/
def Divides (d : Layout) (text : String) : Prop := d.IsValid ∧ d.chars = text.toList

instance (d : Layout) (text : String) : Decidable (d.Divides text) :=
  inferInstanceAs (Decidable (_ ∧ _))

/-- What a reader should make of a layout. -/
def pieces : Layout → List Piece
  | .last run none => Piece.literal run
  | .last run (some tail) => Piece.literal run ++ [.unfinished ('\x1b' :: '[' :: tail)]
  | .more run g rest => Piece.literal run ++ .control g.body g.final :: rest.pieces

/-- A layout with another first run. -/
def withRun (run : List Char) : Layout → Layout
  | .last _ tail => .last run tail
  | .more _ g rest => .more run g rest

/-- The layout behind pieces. -/
def ofPieces : List Piece → Layout
  | [] => .last [] none
  | .text cs :: rest => (ofPieces rest).withRun cs
  | .control body final :: rest => .more [] ⟨body, final⟩ (ofPieces rest)
  | .unfinished cs :: _ => .last [] (some (cs.drop 2))

/-- The parts of a layout that begins with a sequence are valid. -/
theorem isValid_more (run : List Char) (g : ControlSequence) (rest : Layout) :
    (more run g rest).IsValid ↔ ¬ HasIntroducer run ∧ g.IsComplete ∧ rest.IsValid := by
  constructor
  · rintro ⟨hruns, hseqs, htail⟩
    refine ⟨hruns run List.mem_cons_self, hseqs g List.mem_cons_self, ?_⟩
    exact ⟨fun r hr => hruns r (List.mem_cons_of_mem _ hr),
      fun g' hg => hseqs g' (List.mem_cons_of_mem _ hg), htail⟩
  · rintro ⟨hrun, hg, hruns, hseqs, htail⟩
    refine ⟨fun r hr => ?_, fun g' hg' => ?_, htail⟩
    · rcases List.mem_cons.mp hr with rfl | hr
      · exact hrun
      · exact hruns r hr
    · rcases List.mem_cons.mp hg' with rfl | hg'
      · exact hg
      · exact hseqs g' hg'

theorem isValid_last_none (run : List Char) :
    (last run none).IsValid ↔ ¬ HasIntroducer run := by
  constructor
  · intro h
    exact h.runs_clean run List.mem_cons_self
  · intro h
    refine ⟨fun r hr => ?_, fun g hg => absurd hg List.not_mem_nil, fun t ht => ?_⟩
    · rw [List.mem_singleton.mp hr]
      exact h
    · exact absurd ht (Option.not_mem_none t)

theorem isValid_last_some (run tail : List Char) :
    (last run (some tail)).IsValid ↔
      ¬ HasIntroducer run ∧ ∀ c ∈ tail, c.isAlpha = false := by
  constructor
  · intro h
    exact ⟨h.runs_clean run List.mem_cons_self, h.tail_letterless tail rfl⟩
  · rintro ⟨hrun, htail⟩
    refine ⟨fun r hr => ?_, fun g hg => absurd hg List.not_mem_nil, fun t ht => ?_⟩
    · rw [List.mem_singleton.mp hr]
      exact hrun
    · rw [← Option.mem_some.mp ht]
      exact htail

end Layout

namespace Piece

theorem literal_nil : literal [] = [] := rfl

theorem literal_of_ne_nil (run : List Char) (h : run ≠ []) : literal run = [.text run] := by
  rw [literal, if_neg]
  rw [List.isEmpty_iff]
  exact h

theorem afterText_nil (before : List Char) : afterText before [] = literal before.reverse := by
  rw [afterText]

theorem afterText_introducer (before cs : List Char) :
    afterText before ('\x1b' :: '[' :: cs) = literal before.reverse ++ afterBracket [] cs := by
  rw [afterText]

/-- Where no introducer starts, the reader takes one literal character. -/
theorem afterText_cons (before : List Char) (c : Char) (cs : List Char)
    (h : ¬ (c = '\x1b' ∧ cs.head? = some '[')) :
    afterText before (c :: cs) = afterText (c :: before) cs := by
  rw [afterText]
  rintro cs' rfl rfl
  exact h ⟨rfl, rfl⟩

theorem head?_escape_ne (cs : List Char) : ('\x1b' :: cs).head? ≠ some '[' := by
  rw [List.head?_cons]
  decide

/-- The reader takes a clean run as one piece, unless a bracket follows. -/
theorem afterText_run (run before cs : List Char) (hrun : ¬ HasIntroducer run)
    (hcs : cs.head? ≠ some '[') :
    afterText before (run ++ cs) = afterText (run.reverse ++ before) cs := by
  induction run generalizing before with
  | nil => rw [List.nil_append, List.reverse_nil, List.nil_append]
  | cons c run ih =>
      rw [hasIntroducer_cons, not_or] at hrun
      -- A pair across the end of the run would need a bracket behind it.
      have hfront : ¬ (c = '\x1b' ∧ (run ++ cs).head? = some '[') := by
        rintro ⟨hc, hd⟩
        cases run with
        | nil => exact hcs hd
        | cons d ds => exact hrun.1 ⟨hc, hd⟩
      rw [List.cons_append, afterText_cons _ _ _ hfront, ih _ hrun.2, List.reverse_cons,
        List.append_assoc, List.singleton_append]

theorem afterBracket_nil (body : List Char) :
    afterBracket body [] = [.unfinished ('\x1b' :: '[' :: body.reverse)] := by
  rw [afterBracket]

/-- The reader passes over what is no letter. -/
theorem afterBracket_body (body before cs : List Char)
    (hbody : ∀ c ∈ body, c.isAlpha = false) :
    afterBracket before (body ++ cs) = afterBracket (body.reverse ++ before) cs := by
  induction body generalizing before with
  | nil => rw [List.nil_append, List.reverse_nil, List.nil_append]
  | cons c body ih =>
      have hc : c.isAlpha = false := hbody c List.mem_cons_self
      rw [List.cons_append, afterBracket, hc, if_neg Bool.false_ne_true,
        ih _ (fun d hd => hbody d (List.mem_cons_of_mem _ hd)), List.reverse_cons,
        List.append_assoc, List.singleton_append]

/-- The reader ends a control sequence at its letter. -/
theorem afterBracket_final (body cs : List Char) (final : Char) (hfinal : final.isAlpha = true) :
    afterBracket body (final :: cs) = .control body.reverse final :: afterText [] cs := by
  rw [afterBracket, if_pos hfinal]

end Piece

namespace Layout

/-- The reader recovers the pieces of a valid layout. -/
theorem ofText_chars (d : Layout) (hd : d.IsValid) : Piece.ofText d.chars = d.pieces := by
  unfold Piece.ofText
  induction d with
  | last run tail =>
      cases tail with
      | none =>
          -- With nothing behind it, the run is read up to the end of the text.
          have hrun := (isValid_last_none run).mp hd
          have hread := Piece.afterText_run run [] [] hrun (by simp only [List.head?_nil, ne_eq,
            reduceCtorEq, not_false_eq_true])
          rw [List.append_nil, List.append_nil] at hread
          rw [chars, hread, Piece.afterText_nil, List.reverse_reverse, pieces]
      | some tail =>
          rcases (isValid_last_some run tail).mp hd with ⟨hrun, htail⟩
          have hbody := Piece.afterBracket_body tail [] [] htail
          rw [List.append_nil, List.append_nil] at hbody
          rw [chars, Piece.afterText_run run [] _ hrun (Piece.head?_escape_ne _), List.append_nil,
            Piece.afterText_introducer, List.reverse_reverse, hbody, Piece.afterBracket_nil,
            List.reverse_reverse, pieces]
  | more run g rest ih =>
      rcases (isValid_more run g rest).mp hd with ⟨hrun, hg, hrest⟩
      -- The run ends at the sequence, and the sequence at its letter.
      have hread : Piece.afterText [] (run ++ (g.chars ++ rest.chars))
          = Piece.literal run ++ Piece.afterBracket [] (g.body ++ (g.final :: rest.chars)) := by
        rw [ControlSequence.chars, List.cons_append, List.cons_append,
          Piece.afterText_run run [] _ hrun (Piece.head?_escape_ne _), List.append_nil,
          Piece.afterText_introducer, List.reverse_reverse, List.append_assoc,
          List.singleton_append]
      rw [chars, hread, Piece.afterBracket_body g.body [] _ hg.body_letterless, List.append_nil,
        Piece.afterBracket_final _ _ _ hg.final_isAlpha, List.reverse_reverse, ih hrest, pieces]

/-- A literal run in front of pieces is the first run of their layout,
    provided they do not start with a run themselves. -/
theorem ofPieces_literal (run : List Char) (ps : List Piece)
    (h : (ofPieces ps).withRun [] = ofPieces ps) :
    ofPieces (Piece.literal run ++ ps) = (ofPieces ps).withRun run := by
  by_cases hrun : run = []
  · rw [hrun, Piece.literal_nil, List.nil_append, h]
  · rw [Piece.literal_of_ne_nil run hrun, List.singleton_append, ofPieces]

/-- A layout is recovered from its pieces. -/
theorem ofPieces_pieces (d : Layout) : ofPieces d.pieces = d := by
  induction d with
  | last run tail =>
      cases tail with
      | none =>
          have h := ofPieces_literal run [] rfl
          rw [List.append_nil] at h
          rw [pieces, h]
          rfl
      | some tail => rw [pieces, ofPieces_literal run _ rfl]; rfl
  | more run g rest ih =>
      -- A sequence follows the run, so the run cannot be taken for a later one.
      rw [pieces, ofPieces_literal run _ rfl, ofPieces, ih]
      rfl

/-- No text has two layouts: the reader finds both. -/
theorem divides_unique (d d' : Layout) (text : String) (hd : d.Divides text)
    (hd' : d'.Divides text) : d' = d := by
  rw [← ofPieces_pieces d', ← ofPieces_pieces d, ← ofText_chars d' hd'.1, ← ofText_chars d hd.1,
    hd'.2, hd.2]

/-- A text falls apart at its first letter, if it has one. -/
theorem letterless_or_split (cs : List Char) :
    (∀ c ∈ cs, c.isAlpha = false) ∨
      ∃ (g : ControlSequence) (rest : List Char), g.IsComplete ∧ cs = g.body ++ g.final :: rest := by
  induction cs with
  | nil => exact Or.inl (fun c hc => absurd hc List.not_mem_nil)
  | cons c cs ih =>
      by_cases hc : c.isAlpha = true
      · refine Or.inr ⟨⟨[], c⟩, cs, ⟨fun d hd => absurd hd List.not_mem_nil, hc⟩, ?_⟩
        rw [List.nil_append]
      · have hc : c.isAlpha = false := by simpa only [Bool.not_eq_true] using hc
        rcases ih with hcs | ⟨g, rest, hg, hcs⟩
        · exact Or.inl (List.forall_mem_cons.mpr ⟨hc, hcs⟩)
        · refine Or.inr ⟨⟨c :: g.body, g.final⟩, rest, ⟨?_, hg.final_isAlpha⟩, ?_⟩
          · exact List.forall_mem_cons.mpr ⟨hc, hg.body_letterless⟩
          · rw [hcs, List.cons_append]

/-- Every list of characters has a layout: cut at the first introducer, then
    at the first letter behind it. -/
theorem exists_isValid_chars (cs : List Char) : ∃ d : Layout, d.IsValid ∧ d.chars = cs := by
  induction hn : cs.length using Nat.strong_induction_on generalizing cs with
  | _ n ih =>
    by_cases hintro : HasIntroducer cs
    · rcases exists_first_introducer cs hintro with ⟨run, rest, hcs, hrun⟩
      rcases letterless_or_split rest with htail | ⟨g, after, hg, hrest⟩
      · exact ⟨.last run (some rest), (isValid_last_some run rest).mpr ⟨hrun, htail⟩, hcs.symm⟩
      · -- What is left after the letter is shorter than the whole text.
        have hlen : after.length < n := by
          rw [← hn, hcs, hrest]
          simp only [List.length_append, List.length_cons]
          omega
        rcases ih after.length hlen after rfl with ⟨d, hd, hchars⟩
        refine ⟨.more run g d, (isValid_more run g d).mpr ⟨hrun, hg, hd⟩, ?_⟩
        rw [chars, hchars, hcs, hrest, ControlSequence.chars]
        simp only [List.cons_append, List.append_assoc, List.nil_append]
    · exact ⟨.last cs none, (isValid_last_none cs).mpr hintro, rfl⟩

/-- Every text has a layout. -/
theorem exists_divides (text : String) : ∃ d : Layout, d.Divides text :=
  exists_isValid_chars text.toList

end Layout

end SimTerm
