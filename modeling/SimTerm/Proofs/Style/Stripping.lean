import SimTerm.Proofs.Style.Rendering

/-!
# Texts without their Control Sequences

What is left of a text when its control sequences are taken out, and when
nothing that is left is a control sequence again.

Each literal run is clean, but taking a sequence out joins the runs on its two
sides. If the first of them ends in the escape character and the next one that
is not empty begins with a bracket, the two make an introducer that the text
did not have (`strip_makes_introducer`). This is the only way:
`stays_clean_iff` says that the result is clean exactly when no two
neighbouring runs meet like that, and that being clean is the same as being
left alone by a second pass.

The second half needs one thing more than the first. A result that is not
clean has at least the two characters of an introducer taken from it, so a
second pass makes it shorter (`length_flatten_runs_lt`).

## Main definitions

* `Layout.KeepsApart`: No two neighbouring runs make an introducer.

## Theorems

* `strip?_of_divides`: What is left of a text are its literal runs.
* `strip?_eq_self_iff`: A text is left alone exactly when it is clean.
* `stays_clean_iff`: When a stripped text is clean.
* `strip_makes_introducer`: A stripped text need not be.
-/

namespace SimTerm

namespace Layout

/-- No run that is not empty makes an introducer with the next such run. -/
def KeepsApart (d : Layout) : Prop :=
  (d.runs.filter (· ≠ [])).IsChain (fun as bs => ¬ Meets as bs)

instance (d : Layout) : Decidable d.KeepsApart :=
  inferInstanceAs (Decidable (List.IsChain _ _))

/-- The runs of a layout are no longer than the layout. -/
theorem length_flatten_runs_le (d : Layout) : d.runs.flatten.length ≤ d.chars.length := by
  induction d with
  | last run tail =>
      cases tail with
      | none => simp only [runs, chars, List.flatten_singleton, Nat.le_refl]
      | some tail => simp only [runs, chars, List.flatten_singleton, List.length_append,
          Nat.le_add_right]
  | more run g rest ih =>
      simp only [runs, chars, List.flatten_cons, List.length_append]
      omega

/-- The runs of a valid layout with an introducer are shorter than the
    layout: the introducer is in none of them. -/
theorem length_flatten_runs_lt (d : Layout) (hd : d.IsValid) (h : HasIntroducer d.chars) :
    d.runs.flatten.length < d.chars.length := by
  cases d with
  | last run tail =>
      cases tail with
      | none => exact absurd h ((isValid_last_none run).mp hd)
      | some tail =>
          simp only [runs, chars, List.flatten_singleton, List.length_append, List.length_cons]
          omega
  | more run g rest =>
      have hrest := length_flatten_runs_le rest
      simp only [runs, chars, ControlSequence.chars, List.flatten_cons, List.length_append,
        List.length_cons]
      omega

end Layout

/-- What is left of a text that is read to its end are its literal runs. -/
theorem strip?_of_divides (d : Layout) (text : String) (hd : d.Divides text) :
    strip? text =
      if (renderFresh text).brokeOff then none else some (String.ofList d.runs.flatten) := by
  by_cases hbroke : (renderFresh text).brokeOff = true
  · rw [strip?, if_pos hbroke, if_pos hbroke]
  · rw [strip?, if_neg hbroke, if_neg hbroke, Option.some.injEq]
    have hread : (({} : Pen).render text).brokeOff = false := by
      rw [← Bool.not_eq_true]
      exact hbroke
    apply String.toList_injective
    rw [Rendering.text, renderFresh, Pen.render_text {} d text hd hread, String.toList_join,
      List.flatMap_map, String.toList_ofList, ← List.flatten_filter_ne_nil]
    simp only [String.toList_ofList, List.flatMap_id']

/-- A text is left alone exactly when it is clean. -/
theorem strip?_eq_self_iff (text : String) :
    strip? text = some text ↔ ¬ HasIntroducer text.toList := by
  constructor
  · intro h hintro
    rcases Layout.exists_divides text with ⟨d, hd⟩
    rw [strip?_of_divides d text hd] at h
    by_cases hbroke : (renderFresh text).brokeOff = true
    · rw [if_pos hbroke] at h
      exact absurd h (Option.some_ne_none text).symm
    · -- What is left is shorter than the text and cannot be equal to it.
      rw [if_neg hbroke, Option.some.injEq] at h
      have hlen := d.length_flatten_runs_lt hd.1 (by rw [hd.2]; exact hintro)
      rw [hd.2, ← h, String.toList_ofList] at hlen
      exact absurd hlen (Nat.lt_irrefl _)
  · intro hclean
    -- A clean text is its own only run.
    have hd : (Layout.last text.toList none).Divides text :=
      ⟨(Layout.isValid_last_none text.toList).mpr hclean, rfl⟩
    have hread : ¬ (renderFresh text).brokeOff = true := by
      rw [renderFresh, Pen.brokeOff_iff {} _ text hd]
      rintro ⟨g, hg, _⟩
      exact List.not_mem_nil hg
    rw [strip?_of_divides _ text hd, if_neg hread, Layout.runs, List.flatten_singleton,
      String.ofList_toList]

/-- What is left of a text is clean, and is left alone by a second pass,
    exactly when no run that is not empty ends in the escape character right
    before one that begins with a bracket. -/
theorem stays_clean_iff (d : Layout) (text stripped : String) (hd : d.Divides text)
    (h : strip? text = some stripped) :
    (¬ HasIntroducer stripped.toList ↔ d.KeepsApart) ∧
      (strip? stripped = some stripped ↔ d.KeepsApart) := by
  rw [strip?_of_divides d text hd] at h
  by_cases hbroke : (renderFresh text).brokeOff = true
  · rw [if_pos hbroke] at h
    exact absurd h (Option.some_ne_none stripped).symm
  · rw [if_neg hbroke, Option.some.injEq] at h
    -- Without the empty runs the characters are the same, and neighbours meet.
    have hclean : ¬ HasIntroducer stripped.toList ↔ d.KeepsApart := by
      rw [← h, String.toList_ofList, ← List.flatten_filter_ne_nil]
      refine hasIntroducer_flatten _ (fun run hrun => ?_) (fun run hrun => ?_)
      · exact of_decide_eq_true (List.mem_filter.mp hrun).2
      · exact hd.1.runs_clean run (List.mem_filter.mp hrun).1
    exact ⟨hclean, (strip?_eq_self_iff stripped).trans hclean⟩

/-- Two sequences side by side between runs that do not meet. -/
theorem stays_clean_between_sequences :
    (Layout.more ['a', '\x1b'] ⟨['1'], 'm'⟩ (.more [] ⟨[], 'H'⟩ (.last ['b'] none))).Divides
        "a\x1b\x1b[1m\x1b[Hb" ∧
      strip? "a\x1b\x1b[1m\x1b[Hb" = some "a\x1bb" ∧ strip? "a\x1bb" = some "a\x1bb" := by
  have hd : (Layout.more ['a', '\x1b'] ⟨['1'], 'm'⟩
      (.more [] ⟨[], 'H'⟩ (.last ['b'] none))).Divides "a\x1b\x1b[1m\x1b[Hb" := by decide
  have hstrip : strip? "a\x1b\x1b[1m\x1b[Hb" = some "a\x1bb" := by decide
  exact ⟨hd, hstrip, (stays_clean_iff _ _ _ hd hstrip).2.mpr (by decide)⟩

/-- A stray escape character and a bracket on the two sides of a sequence
    make an introducer once the sequence is gone, and a second pass takes
    away what stood behind it. -/
theorem strip_makes_introducer :
    strip? "\x1b\x1b[m[31mX" = some "\x1b[31mX" ∧ HasIntroducer "\x1b[31mX".toList ∧
      strip? "\x1b[31mX" = some "X" := by
  decide

end SimTerm
