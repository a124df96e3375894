import SimTerm.Proofs.Style.Rendering

/-!
# Numbers with Too Many Digits

Which texts cannot be stripped of their control sequences.

Reading a control sequence gives up where a parameter starts with more than
`Text.maxDigits` digits, and nothing else can go wrong. So a text cannot be
stripped exactly when its layout has such a sequence (`strip?_eq_none_iff`).
Leading zeros count, and an unfinished sequence at the end is never read: it is
the complete sequences that matter.

## Main definitions

* `IsOverlong`: A text with such a control sequence.

## Theorems

* `parameters?_eq_none_iff`: Where reading the numbers gives up.
* `strip?_eq_none_iff`: Where stripping does.
* `parameters?_zeros`, `isOverlong_zeros`: A sequence of nothing but zeros.
-/

namespace SimTerm

/-- A text with a control sequence in which a parameter has too many digits at
    its front. -/
def IsOverlong (text : String) : Prop :=
  ∃ d : Layout, d.Divides text ∧ ∃ g ∈ d.sequences, ∃ token ∈ g.body.splitOn ';',
    Text.maxDigits < (token.takeWhile Text.isDigit).length

theorem parameter?_eq_none_iff (token : List Char) :
    parameter? token = none ↔ Text.maxDigits < (token.takeWhile Text.isDigit).length := by
  unfold parameter? Text.readDecimal?
  cases hdigits : token.takeWhile Text.isDigit with
  | nil => simp only [List.isEmpty_nil, if_true, reduceCtorEq, List.length_nil, Nat.not_lt_zero]
  | cons c cs =>
      simp only [List.isEmpty_cons, Bool.false_eq_true, if_false]
      by_cases hfits : (c :: cs).length ≤ Text.maxDigits
      · rw [if_pos hfits]
        exact iff_of_false (Option.some_ne_none _) (Nat.not_lt.mpr hfits)
      · rw [if_neg hfits]
        exact iff_of_true rfl (Nat.lt_of_not_le hfits)

/-- Reading the numbers gives up at one of them. -/
theorem parameters?_eq_none_iff (body : List Char) :
    parameters? body = none ↔ ∃ token ∈ body.splitOn ';',
      Text.maxDigits < (token.takeWhile Text.isDigit).length := by
  simp only [parameters?, ← parameter?_eq_none_iff]
  induction body.splitOn ';' with
  | nil => simp only [List.mapM_nil, Option.pure_def, reduceCtorEq, List.not_mem_nil, false_and,
      exists_false]
  | cons token rest ih =>
      simp only [List.mapM_cons, Option.bind_eq_bind, Option.pure_def, List.mem_cons,
        exists_eq_or_imp]
      cases htoken : parameter? token with
      | none => exact iff_of_true rfl (Or.inl rfl)
      | some n =>
          rw [Option.bind_some, ← ih]
          simp only [false_or, Option.bind_eq_none_iff, Option.some_ne_none,
            imp_false]
          exact Option.eq_none_iff_forall_ne_some.symm

/-- A text cannot be stripped exactly when it has such a sequence. -/
theorem strip?_eq_none_iff (text : String) : strip? text = none ↔ IsOverlong text := by
  rcases Layout.exists_divides text with ⟨d, hd⟩
  have hstrip : strip? text = none ↔ (({} : Pen).render text).brokeOff = true := by
    rw [strip?, renderFresh]
    split
    · exact iff_of_true rfl ‹_›
    · exact iff_of_false (Option.some_ne_none _) ‹_›
  rw [hstrip, Pen.brokeOff_iff {} d text hd]
  simp only [parameters?_eq_none_iff]
  constructor
  · exact fun h => ⟨d, hd, h⟩
  · rintro ⟨d', hd', h⟩
    rw [Layout.divides_unique d' d text hd' hd]
    exact h

/-- A text that can be stripped is the characters that a fresh pen writes. -/
theorem strip?_of_not_overlong (text : String) (h : ¬ IsOverlong text) :
    strip? text = some (renderFresh text).text := by
  rw [← strip?_eq_none_iff, strip?] at h
  rw [strip?]
  split at h
  · exact absurd rfl h
  · rw [if_neg ‹_›]

theorem isComplete_zeros (n : Nat) :
    (⟨List.replicate n '0', 'm'⟩ : ControlSequence).IsComplete :=
  ⟨fun c hc => by rw [List.eq_of_mem_replicate hc]; rfl, rfl⟩

/-- Zeros in front count as digits. -/
theorem parameters?_zeros (n : Nat) (hn : Text.maxDigits < n) :
    parameters? (List.replicate n '0') = none := by
  rw [parameters?_eq_none_iff]
  refine ⟨List.replicate n '0', ?_, ?_⟩
  · have hsplit : (List.replicate n '0').splitOn ';' = [List.replicate n '0'] := by
      refine List.splitOnP_eq_singleton (fun c hc => ?_)
      rw [List.eq_of_mem_replicate hc]
      rfl
    rw [hsplit, List.mem_singleton]
  · have hdigits : (List.replicate n '0').takeWhile Text.isDigit = List.replicate n '0' := by
      rw [List.takeWhile_replicate]
      rfl
    rw [hdigits, List.length_replicate]
    exact hn

/-- A sequence of too many zeros and a letter. -/
theorem isOverlong_zeros (n : Nat) (hn : Text.maxDigits < n) :
    IsOverlong (String.ofList ('\x1b' :: '[' :: (List.replicate n '0' ++ ['m']))) := by
  refine ⟨.more [] ⟨List.replicate n '0', 'm'⟩ (.last [] none), ⟨?_, ?_⟩, _, List.mem_cons_self,
    (parameters?_eq_none_iff _).mp (parameters?_zeros n hn)⟩
  · rw [Layout.isValid_more]
    have hrest := (Layout.isValid_last_none []).mpr not_hasIntroducer_nil
    exact ⟨not_hasIntroducer_nil, isComplete_zeros n, hrest⟩
  · rw [String.toList_ofList]
    simp only [Layout.chars, ControlSequence.chars, List.nil_append, List.append_nil]

end SimTerm
