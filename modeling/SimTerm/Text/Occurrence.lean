/-!
# Occurrences

Whether a text occurs in another one.

## Main definitions

* `occursIn`: Whether a text stands at some place of another one.
-/

namespace SimTerm

namespace Text

/-- Whether a text stands at some place of another one. -/
def occursIn (needle : List Char) : List Char → Bool
  | [] => needle.isEmpty
  | c :: cs => needle.isPrefixOf (c :: cs) || occursIn needle cs

/-- An occurrence splits a text into what is before and after it. -/
theorem occursIn_iff {needle cs : List Char} :
    occursIn needle cs = true ↔ ∃ before after, cs = before ++ needle ++ after := by
  induction cs with
  | nil =>
    constructor
    · intro h
      have h : needle = [] := by simpa [occursIn] using h
      exact ⟨[], [], by simp [h]⟩
    · rintro ⟨before, after, h⟩
      have h : (before ++ needle) ++ after = [] := h.symm
      simp only [List.append_eq_nil_iff] at h
      simp [occursIn, h.1.2]
  | cons c cs ih =>
    simp only [occursIn, Bool.or_eq_true, List.isPrefixOf_iff_prefix, ih]
    constructor
    · rintro (⟨after, h⟩ | ⟨before, after, h⟩)
      · exact ⟨[], after, by simp [h]⟩
      · exact ⟨c :: before, after, by simp [h]⟩
    · rintro ⟨before, after, h⟩
      cases before with
      | nil => exact .inl ⟨after, by simpa using h.symm⟩
      | cons b before =>
        simp only [List.cons_append, List.cons.injEq] at h
        exact .inr ⟨before, after, h.2⟩

end Text

end SimTerm
