import Mathlib.Data.List.Chain
import SimTerm.Text.Occurrence

/-!
# Introducers of Control Sequences

The escape character right before an opening bracket is what ends a literal
run: it introduces a control sequence, finished or not. Everything that is
said about literal runs is said in terms of where such a pair can stand.

The pair has two characters, so it can appear in a text that is joined from
two others without being in either of them: `Meets` is the one way in which
that happens. A run that ends in the escape character is still followed by a
control sequence and not by a literal bracket, because a sequence starts with
the escape character itself. This is why the first introducer of a text is
where its first sequence starts.

## Main definitions

* `HasIntroducer`: The pair stands somewhere in a text.
* `Meets`: The pair stands where two texts are joined.

## Theorems

* `hasIntroducer_cons`: The pair is at the front or further on.
* `hasIntroducer_append`: The pair is in one of two joined texts or between
  them.
* `exists_first_introducer`: A text with the pair splits at its first one.
* `hasIntroducer_flatten`: Clean runs join to a text with the pair exactly
  where two neighbours meet.
-/

namespace SimTerm

/-- The escape character stands right before an opening bracket somewhere. -/
def HasIntroducer (cs : List Char) : Prop := ['\x1b', '['] <:+: cs

instance (cs : List Char) : Decidable (HasIntroducer cs) :=
  decidable_of_iff (Text.occursIn ['\x1b', '['] cs = true) (by
    rw [Text.occursIn_iff, HasIntroducer, List.IsInfix]
    constructor
    · rintro ⟨before, after, h⟩
      exact ⟨before, after, h.symm⟩
    · rintro ⟨before, after, h⟩
      exact ⟨before, after, h.symm⟩)

/-- The pair stands where two texts are joined. -/
def Meets (as bs : List Char) : Prop := as.getLast? = some '\x1b' ∧ bs.head? = some '['

instance (as bs : List Char) : Decidable (Meets as bs) := inferInstanceAs (Decidable (_ ∧ _))

theorem not_hasIntroducer_nil : ¬ HasIntroducer [] := by
  simp only [HasIntroducer, List.infix_nil, reduceCtorEq, not_false_eq_true]

/-- The pair is at the front or further on. -/
theorem hasIntroducer_cons (c : Char) (cs : List Char) :
    HasIntroducer (c :: cs) ↔ (c = '\x1b' ∧ cs.head? = some '[') ∨ HasIntroducer cs := by
  rw [HasIntroducer, List.infix_cons_iff, List.cons_prefix_cons]
  cases cs with
  | nil => simp [HasIntroducer]
  | cons d ds =>
      rw [List.cons_prefix_cons]
      simp only [List.nil_prefix, and_true, List.head?_cons, Option.some.injEq, HasIntroducer]
      constructor
      · rintro (⟨hc, hd⟩ | h)
        · exact Or.inl ⟨hc.symm, hd.symm⟩
        · exact Or.inr h
      · rintro (⟨hc, hd⟩ | h)
        · exact Or.inl ⟨hc.symm, hd.symm⟩
        · exact Or.inr h

/-- The pair is in one of two joined texts or between them. -/
theorem hasIntroducer_append (as bs : List Char) :
    HasIntroducer (as ++ bs) ↔ HasIntroducer as ∨ HasIntroducer bs ∨ Meets as bs := by
  induction as with
  | nil => simp [Meets, not_hasIntroducer_nil]
  | cons a as ih =>
      rw [List.cons_append, hasIntroducer_cons, hasIntroducer_cons, ih]
      cases as with
      | nil =>
          -- The one character on the left can only be the first of the pair.
          simp only [List.nil_append, List.head?_nil, reduceCtorEq, and_false, false_or,
            not_hasIntroducer_nil, Meets, List.getLast?_singleton, Option.some.injEq,
            List.getLast?_nil, false_and, or_false]
          exact or_comm
      | cons c cs =>
          simp only [List.cons_append, List.head?_cons, Meets, List.getLast?_cons_cons, or_assoc]

/-- A text with the pair splits at the first one: nothing before it holds
    the pair. -/
theorem exists_first_introducer (cs : List Char) (h : HasIntroducer cs) :
    ∃ run rest, cs = run ++ '\x1b' :: '[' :: rest ∧ ¬ HasIntroducer run := by
  induction cs with
  | nil => exact absurd h not_hasIntroducer_nil
  | cons c cs ih =>
      by_cases hfront : c = '\x1b' ∧ cs.head? = some '['
      · rcases hfront with ⟨hc, hd⟩
        rcases List.head?_eq_some_iff.mp hd with ⟨rest, hrest⟩
        refine ⟨[], rest, ?_, not_hasIntroducer_nil⟩
        rw [hc, hrest, List.nil_append]
      · have hrest : HasIntroducer cs := by
          rcases (hasIntroducer_cons c cs).mp h with hc | hcs
          · exact absurd hc hfront
          · exact hcs
        rcases ih hrest with ⟨run, rest, hcs, hrun⟩
        refine ⟨c :: run, rest, by rw [hcs, List.cons_append], ?_⟩
        rw [hasIntroducer_cons]
        rintro (⟨hc, hd⟩ | hr)
        · -- A bracket at the front of the run is one at the front of the text.
          rcases List.head?_eq_some_iff.mp hd with ⟨tail, htail⟩
          exact hfront ⟨hc, by rw [hcs, htail, List.cons_append, List.head?_cons]⟩
        · exact hrun hr

/-- A first run and the text of others meet exactly where the run and the
    first of the others do, as long as that one is not empty. -/
theorem meets_flatten_cons (as bs : List Char) (runs : List (List Char)) (hbs : bs ≠ []) :
    Meets as (bs :: runs).flatten ↔ Meets as bs := by
  rcases List.exists_cons_of_ne_nil hbs with ⟨b, tail, rfl⟩
  simp only [Meets, List.flatten_cons, List.cons_append, List.head?_cons]

/-- Clean runs join to a text with the pair exactly where two neighbours
    meet. -/
theorem hasIntroducer_flatten (runs : List (List Char)) (hne : ∀ run ∈ runs, run ≠ [])
    (hclean : ∀ run ∈ runs, ¬ HasIntroducer run) :
    ¬ HasIntroducer runs.flatten ↔ runs.IsChain (fun as bs => ¬ Meets as bs) := by
  induction runs with
  | nil => simp [not_hasIntroducer_nil]
  | cons as rest ih =>
      have ih := ih (fun run h => hne run (List.mem_cons_of_mem _ h))
        (fun run h => hclean run (List.mem_cons_of_mem _ h))
      have has : ¬ HasIntroducer as := hclean as List.mem_cons_self
      -- The first run is clean and the others are settled, so the joint decides.
      rw [List.flatten_cons, hasIntroducer_append, not_or, not_or, ih]
      cases rest with
      | nil => simp [has, Meets]
      | cons bs runs =>
          have hbs : bs ≠ [] := hne bs (List.mem_cons_of_mem _ List.mem_cons_self)
          rw [meets_flatten_cons as bs runs hbs, List.isChain_cons_cons]
          constructor
          · rintro ⟨_, hchain, hmeet⟩
            exact ⟨hmeet, hchain⟩
          · rintro ⟨hmeet, hchain⟩
            exact ⟨has, hchain, hmeet⟩

end SimTerm
