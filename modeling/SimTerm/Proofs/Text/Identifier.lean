import SimTerm.Proofs.Text.Words
import SimTerm.Text.Letter
import SimTerm.Text.Lowercase

/-!
# Identifiers

The characters of variable names, and what they are not.

They are ASCII letters, ASCII digits and the underscore, so their code points
lie in four ranges (`toNat_of_isIdentifierTail`). That none of them is a blank
or a dash, and that none becomes a dash in lower case, is read off these ranges.

In lower case an ASCII text keeps its length and is taken character by
character, whatever stands around it (`lower_append`). The rule for the sigma
looks at what stands around it, but no sigma is in such a text.

## Theorems

* `toNat_of_isIdentifierTail`: The ranges of the characters.
* `isIdentifier_iff`: An identifier as its characters.
* `isWord_of_isIdentifier`: An identifier is a word.
* `lower_append`: An ASCII text in lower case.
-/

namespace SimTerm

namespace Text

/-- The code points of the characters of identifiers. -/
theorem toNat_of_isIdentifierTail (c : Char) (h : isIdentifierTail c = true) :
    (48 ≤ c.toNat ∧ c.toNat ≤ 57) ∨ (65 ≤ c.toNat ∧ c.toNat ≤ 90) ∨ c.toNat = 95 ∨
      (97 ≤ c.toNat ∧ c.toNat ≤ 122) := by
  rw [isIdentifierTail, Bool.or_eq_true, beq_iff_eq] at h
  rcases h with halphanum | rfl
  · rcases Bool.or_eq_true_iff.mp halphanum with halpha | hdigit
    · rcases Bool.or_eq_true_iff.mp halpha with hupper | hlower
      · exact .inr (.inl (of_decide_eq_true hupper))
      · have hrange := Bool.and_eq_true_iff.mp hlower
        exact .inr (.inr (.inr ⟨of_decide_eq_true hrange.1, of_decide_eq_true hrange.2⟩))
    · have hrange := Bool.and_eq_true_iff.mp hdigit
      exact .inl ⟨of_decide_eq_true hrange.1, of_decide_eq_true hrange.2⟩
  · exact .inr (.inr (.inl rfl))

theorem isIdentifierTail_of_isBlank (c : Char) (h : isBlank c = true) :
    isIdentifierTail c = false := by
  rw [← Bool.not_eq_true]
  intro htail
  have hrange := toNat_of_isIdentifierTail c htail
  simp only [isBlank, Bool.or_eq_true, Bool.and_eq_true, decide_eq_true_eq, beq_iff_eq] at h
  omega

theorem isIdentifierTail_of_head (c : Char) (h : isIdentifierHead c = true) :
    isIdentifierTail c = true := by
  rw [isIdentifierHead, Bool.or_eq_true] at h
  rw [isIdentifierTail, Char.isAlphanum, Bool.or_eq_true, Bool.or_eq_true]
  exact h.imp .inl id

/-- An identifier is characters of identifiers, of which the first is no digit. -/
theorem isIdentifier_iff (name : List Char) :
    isIdentifier name = true ↔ ∃ c cs, name = c :: cs ∧ isIdentifierHead c = true ∧
      ∀ d ∈ name, isIdentifierTail d = true := by
  cases name with
  | nil => simp only [isIdentifier, Bool.false_eq_true, reduceCtorEq, false_and, exists_false]
  | cons c cs =>
      rw [isIdentifier, Bool.and_eq_true, List.all_eq_true]
      constructor
      · rintro ⟨hhead, htail⟩
        exact ⟨c, cs, rfl, hhead, List.forall_mem_cons.mpr ⟨isIdentifierTail_of_head c hhead, htail⟩⟩
      · rintro ⟨c', cs', heq, hhead, htail⟩
        rw [List.cons.injEq] at heq
        rw [heq.1]
        exact ⟨hhead, (List.forall_mem_cons.mp htail).2⟩

theorem isWord_of_isIdentifier (name : List Char) (h : isIdentifier name = true) : IsWord name := by
  rcases (isIdentifier_iff name).mp h with ⟨c, cs, rfl, _, htail⟩
  refine ⟨List.cons_ne_nil _ _, fun d hd => ?_⟩
  rw [← Bool.not_eq_true]
  intro hblank
  have hno := isIdentifierTail_of_isBlank d hblank
  rw [htail d hd] at hno
  exact absurd hno (by decide)

/-- No such character becomes a dash in lower case. -/
theorem toLower_ne_dash (c : Char) (h : isIdentifierTail c = true) : c.toLower ≠ '-' := by
  intro hdash
  by_cases hupper : 'A'.val ≤ c.val ∧ c.val ≤ 'Z'.val
  · -- A capital becomes a small letter, behind the dash.
    have hsmall : c.toLower = _ := dif_pos hupper
    have hsum : (c.val + ('a'.val - 'A'.val)).toNat = '-'.val.toNat := by
      rw [← hdash, hsmall]
    have hrange : 65 ≤ c.val.toNat ∧ c.val.toNat ≤ 90 := hupper
    rw [UInt32.toNat_add] at hsum
    have hshift : ('a'.val - 'A'.val).toNat = 32 := rfl
    have hcode : '-'.val.toNat = 45 := rfl
    omega
  · have hsame : c.toLower = c := dif_neg hupper
    rw [← hsame, hdash] at h
    exact absurd h (by decide)

/-- An ASCII text becomes its characters in lower case, and what stands around
    it does not count. -/
theorem lowerAfter_append (before cs rest : List Char) (h : ∀ c ∈ cs, c.toNat < 128) :
    lowerAfter before (cs ++ rest) =
      cs.map Char.toLower ++ lowerAfter (cs.reverse ++ before) rest := by
  induction cs generalizing before with
  | nil => rfl
  | cons c cs ih =>
      rcases List.forall_mem_cons.mp h with ⟨hc, hcs⟩
      have hsigma : ¬ (c.toNat == 0x3A3) = true := by
        rw [beq_iff_eq]
        omega
      rw [List.cons_append, lowerAfter, if_neg hsigma, lowerChar, if_pos hc, ih _ hcs,
        List.map_cons, List.reverse_cons, List.append_assoc, List.singleton_append,
        List.singleton_append, List.cons_append]

theorem lower_append (cs rest : List Char) (h : ∀ c ∈ cs, c.toNat < 128) :
    lower (cs ++ rest) = cs.map Char.toLower ++ lowerAfter cs.reverse rest := by
  rw [lower, lowerAfter_append [] cs rest h, List.append_nil]

end Text

end SimTerm
