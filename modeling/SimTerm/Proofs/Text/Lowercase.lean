import SimTerm.Text.Lowercase

/-!
# Lower Case Twice

Lower-casing a text that is lower-cased already changes nothing.

That is a fact about the table of capitals, and it can be told run by run. A run
takes each of its capitals to a small letter, and no small letter may be a
capital of any run. For most pairs of runs it is enough to compare the ends,
since the small letters of the one lie before or behind all of the other. Where
they do not, as with letters that come in pairs of a capital and its small
letter, the small letters are gone through one by one (`misses`). The table is
checked once (`caseRuns_checked`), and what a single character comes to is read
off from that.

The sigma rule does not need a look at the places where it applies. Whatever it
decides, a small sigma comes of it, and no small letter is the capital sigma.
So a text of small letters is left alone as a whole (`lowerAfter_eq_self`).

## Main definitions

* `IsSmall`: A character that lower-casing leaves alone.
* `CaseRun.covers`: A capital belongs to a run.
* `CaseRun.misses`: No small letter of one run is a capital of another.

## Theorems

* `isSmall_of_mem_lowerChar`: Lower-casing a character gives small letters.
* `lowerAfter_eq_self`: A text of small letters is left alone.
* `mem_lowerAfter_iff`: Signs before the small letters are neither lost nor gained.
* `lower_lower`, `lowered_lowered`: Lower-casing twice is lower-casing once.
-/

namespace SimTerm

namespace Text

/-- A character that lower-casing leaves alone, wherever it stands. -/
structure IsSmall (c : Char) : Prop where
  /-- It does not come under the sigma rule. -/
  notSigma : c.toNat ≠ 0x3A3
  /-- It has no small letter but itself. -/
  own : lowerChar c = [c]

namespace CaseRun

/-- Whether a code point is a capital of a run. -/
def covers (r : CaseRun) (n : Nat) : Bool :=
  r.first ≤ n && n ≤ r.last && (n - r.first) % r.stride == 0

/-- The letter that a run has for one of its own. -/
def image (r : CaseRun) (n : Nat) : Nat := ((n : Int) + r.shift).toNat

/-- Whether no small letter of a run is a capital of another one: they lie before
    it or behind it, or none of them is hit. -/
def misses (r other : CaseRun) : Bool :=
  Nat.blt (r.image r.last) other.first || Nat.blt other.last (r.image r.first) ||
    (List.range ((r.last - r.first) / r.stride + 1)).all
      (fun k => !other.covers (r.image (r.first + r.stride * k)))

/-- The small letters of a run are characters, none of them a capital of ASCII or
    the capital I with a dot. -/
def LandsWell (r : CaseRun) : Prop :=
  (97 ≤ r.image r.first ∧ r.image r.last < 0x130) ∨
    (0x130 < r.image r.first ∧ r.image r.last < 0xD800) ∨
    (0xDFFF < r.image r.first ∧ r.image r.last < 0x110000)

instance (r : CaseRun) : Decidable r.LandsWell := inferInstanceAs (Decidable (_ ∨ _ ∨ _))

theorem image_mono (r : CaseRun) {m n : Nat} (h : m ≤ n) : r.image m ≤ r.image n := by
  unfold image
  omega

/-- A capital of a run is at one of the places that are gone through. -/
theorem exists_of_covers (r : CaseRun) (n : Nat) (h : r.covers n = true) :
    r.first ≤ n ∧ n ≤ r.last ∧
      ∃ k < (r.last - r.first) / r.stride + 1, n = r.first + r.stride * k := by
  simp only [covers, Bool.and_eq_true, decide_eq_true_eq, beq_iff_eq] at h
  rcases h with ⟨⟨hfirst, hlast⟩, hstride⟩
  refine ⟨hfirst, hlast, (n - r.first) / r.stride, ?_, ?_⟩
  · exact Nat.lt_succ_of_le (Nat.div_le_div_right (by omega))
  · have hplace := Nat.div_add_mod (n - r.first) r.stride
    omega

theorem not_covers_of_misses (r other : CaseRun) (hmiss : r.misses other = true) (n : Nat)
    (h : r.covers n = true) : other.covers (r.image n) = false := by
  rcases exists_of_covers r n h with ⟨hfirst, hlast, k, hk, hn⟩
  have hlow := r.image_mono hfirst
  have hhigh := r.image_mono hlast
  simp only [misses, Bool.or_eq_true, Nat.blt_eq, List.all_eq_true, List.mem_range,
    Bool.not_eq_true'] at hmiss
  rcases hmiss with (hbefore | hbehind) | hnone
  · rw [covers, decide_eq_false (by omega), Bool.false_and, Bool.false_and]
  · have hout : ¬ r.image n ≤ other.last := by omega
    rw [covers, decide_eq_false hout, Bool.and_false, Bool.false_and]
  · rw [hn]
    exact hnone k hk

end CaseRun

/-! ### The table -/

/-- What the table is checked for. No small letter of it is a capital of it, and
    all of them are characters. The capital sigma has a run, so that a character
    without one is another. The dot that is left of the capital I and the two
    small sigmas are no capitals. -/
theorem caseRuns_checked :
    (∀ r ∈ caseRuns, r.LandsWell ∧ caseRuns.all r.misses = true) ∧
      (caseRuns.any fun r => r.covers 0x3A3) = true ∧
      ∀ n ∈ [0x307, 0x3C2, 0x3C3], ∀ r ∈ caseRuns, r.covers n = false := by decide +kernel

theorem covers_small (r other : CaseRun) (hr : r ∈ caseRuns) (hother : other ∈ caseRuns)
    (n : Nat) (h : r.covers n = true) : other.covers (r.image n) = false := by
  have hall := List.all_eq_true.mp (caseRuns_checked.1 r hr).2 other hother
  exact r.not_covers_of_misses other hall n h

/-! ### One character -/

/-- What lower-casing does to a character beyond ASCII. -/
theorem lowerChar_eq (c : Char) (hascii : 128 ≤ c.toNat) (hdotted : c.toNat ≠ 0x130) :
    lowerChar c = match caseRuns.find? (fun r => r.covers c.toNat) with
      | some r => [Char.ofNat (r.image c.toNat)]
      | none => [c] := by
  rw [lowerChar, if_neg (by omega), if_neg (by rw [beq_iff_eq]; exact hdotted)]
  rfl

/-- A character beyond ASCII that is a capital of no run is small. -/
theorem isSmall_of_not_covers (c : Char) (hascii : 128 ≤ c.toNat) (hdotted : c.toNat ≠ 0x130)
    (h : ∀ r ∈ caseRuns, r.covers c.toNat = false) : IsSmall c where
  notSigma := fun hsigma => by
    rcases List.any_eq_true.mp caseRuns_checked.2.1 with ⟨r, hr, hcovers⟩
    rw [← hsigma, h r hr] at hcovers
    exact Bool.false_ne_true hcovers
  own := by
    have hnone : caseRuns.find? (fun r => r.covers c.toNat) = none :=
      List.find?_eq_none.mpr fun r hr => by rw [h r hr]; exact Bool.false_ne_true
    rw [lowerChar_eq c hascii hdotted, hnone]

/-- The capitals of ASCII have their small letters 32 places further on. -/
theorem toNat_toLower (c : Char) :
    c.toLower.toNat = if 65 ≤ c.toNat ∧ c.toNat ≤ 90 then c.toNat + 32 else c.toNat := by
  have hcapital : ('A'.val ≤ c.val ∧ c.val ≤ 'Z'.val) ↔ 65 ≤ c.toNat ∧ c.toNat ≤ 90 := Iff.rfl
  by_cases h : 65 ≤ c.toNat ∧ c.toNat ≤ 90
  · have hlower : c.toLower = ⟨c.val + ('a'.val - 'A'.val), _⟩ := dif_pos (hcapital.mpr h)
    have hsum : (c.val + ('a'.val - 'A'.val)).toNat = (c.toNat + 32) % 2 ^ 32 :=
      UInt32.toNat_add _ _
    rw [if_pos h, hlower]
    exact hsum.trans (Nat.mod_eq_of_lt (by omega))
  · have hlower : c.toLower = c := dif_neg (fun hval => h (hcapital.mp hval))
    rw [if_neg h, hlower]

/-- All characters but the capitals of ASCII are left alone. -/
theorem toLower_eq_self (c : Char) (h : c.toNat < 65 ∨ 90 < c.toNat) : c.toLower = c := by
  refine Char.toNat_inj.mp ?_
  rw [toNat_toLower, if_neg (by omega)]

theorem isSmall_toLower (c : Char) (hascii : c.toNat < 128) : IsSmall c.toLower := by
  have hcode := toNat_toLower c
  have hsmall : c.toLower.toNat < 128 ∧ (c.toLower.toNat < 65 ∨ 90 < c.toLower.toNat) := by
    split at hcode <;> omega
  exact ⟨by omega, by rw [lowerChar, if_pos hsmall.1, toLower_eq_self _ hsmall.2]⟩

/-- A small letter of the table is a character, and none before those of ASCII. -/
theorem toNat_small (r : CaseRun) (hr : r ∈ caseRuns) (n : Nat) (h : r.covers n = true) :
    (Char.ofNat (r.image n)).toNat = r.image n ∧ 97 ≤ r.image n ∧ r.image n ≠ 0x130 := by
  rcases r.exists_of_covers n h with ⟨hfirst, hlast, _⟩
  have hlow := r.image_mono hfirst
  have hhigh := r.image_mono hlast
  have hlands := (caseRuns_checked.1 r hr).1
  unfold CaseRun.LandsWell at hlands
  have hvalid : (r.image n).isValidChar := by
    unfold Nat.isValidChar
    omega
  refine ⟨?_, by omega, by omega⟩
  rw [Char.ofNat, dif_pos hvalid]
  rfl

/-- A small letter of the table is small. -/
theorem isSmall_small (r : CaseRun) (hr : r ∈ caseRuns) (n : Nat) (h : r.covers n = true) :
    IsSmall (Char.ofNat (r.image n)) := by
  rcases toNat_small r hr n h with ⟨hback, hlow, hdotted⟩
  by_cases hascii : r.image n < 128
  · -- Some capitals beyond ASCII have their small letters in it.
    rw [← toLower_eq_self (Char.ofNat (r.image n)) (.inr (by omega))]
    exact isSmall_toLower _ (by rw [hback]; exact hascii)
  · refine isSmall_of_not_covers _ (by omega) (by omega) fun other hother => ?_
    rw [hback]
    exact covers_small r other hr hother n h

/-- Lower-casing a character gives small letters. -/
theorem isSmall_of_mem_lowerChar (c d : Char) (hd : d ∈ lowerChar c) : IsSmall d := by
  by_cases hascii : c.toNat < 128
  · rw [lowerChar, if_pos hascii, List.mem_singleton] at hd
    rw [hd]
    exact isSmall_toLower c hascii
  by_cases hdotted : c.toNat = 0x130
  · -- The capital I with a dot becomes a small i and the dot.
    rw [lowerChar, if_neg hascii, if_pos (by rw [beq_iff_eq]; exact hdotted)] at hd
    rcases List.mem_cons.mp hd with rfl | hd
    · exact isSmall_toLower 'i' (by decide)
    · rw [List.mem_singleton.mp hd]
      exact isSmall_of_not_covers _ (by decide) (by decide) (caseRuns_checked.2.2 0x307 (by decide))
  · rw [lowerChar_eq c (by omega) hdotted] at hd
    cases hrun : caseRuns.find? (fun r => r.covers c.toNat) with
    | some r =>
        simp only [hrun, List.mem_singleton] at hd
        have hcovers := List.find?_some hrun
        rw [hd]
        exact isSmall_small r (List.mem_of_find?_eq_some hrun) c.toNat hcovers
    | none =>
        simp only [hrun, List.mem_singleton] at hd
        rw [hd]
        refine isSmall_of_not_covers c (by omega) hdotted fun r hr => ?_
        exact Bool.eq_false_iff.mpr (List.find?_eq_none.mp hrun r hr)

/-- What comes of a character and stands before the small letters of ASCII is that
    character. -/
theorem eq_of_mem_lowerChar (c d : Char) (hd : d ∈ lowerChar c) (hlow : d.toNat < 97) : d = c := by
  by_cases hascii : c.toNat < 128
  · rw [lowerChar, if_pos hascii, List.mem_singleton] at hd
    rw [hd] at hlow ⊢
    rw [toNat_toLower] at hlow
    refine toLower_eq_self c ?_
    split at hlow <;> omega
  by_cases hdotted : c.toNat = 0x130
  · rw [lowerChar, if_neg hascii, if_pos (by rw [beq_iff_eq]; exact hdotted), List.mem_cons,
      List.mem_singleton] at hd
    rcases hd with rfl | rfl
    · exact absurd hlow (by decide)
    · exact absurd hlow (by decide)
  · rw [lowerChar_eq c (by omega) hdotted] at hd
    cases hrun : caseRuns.find? (fun r => r.covers c.toNat) with
    | none =>
        simp only [hrun, List.mem_singleton] at hd
        exact hd
    | some r =>
        simp only [hrun, List.mem_singleton] at hd
        have hcovers := List.find?_some hrun
        rcases toNat_small r (List.mem_of_find?_eq_some hrun) c.toNat hcovers with ⟨hback, hhigh, _⟩
        rw [hd, hback] at hlow
        exact absurd hhigh (by omega)

/-! ### Texts -/

/-- A text of small letters is left alone, whatever stands before it. -/
theorem lowerAfter_eq_self (before cs : List Char) (h : ∀ c ∈ cs, IsSmall c) :
    lowerAfter before cs = cs := by
  induction cs generalizing before with
  | nil => rfl
  | cons c cs ih =>
      rcases List.forall_mem_cons.mp h with ⟨hc, hcs⟩
      have hsigma : ¬ (c.toNat == 0x3A3) = true := by
        rw [beq_iff_eq]
        exact hc.notSigma
      rw [lowerAfter, if_neg hsigma, hc.own, ih _ hcs, List.singleton_append]

/-- Lower-casing a text gives small letters, whatever stands before it. -/
theorem isSmall_of_mem_lowerAfter (before cs : List Char) :
    ∀ c ∈ lowerAfter before cs, IsSmall c := by
  induction cs generalizing before with
  | nil => exact fun c hc => absurd hc List.not_mem_nil
  | cons c cs ih =>
      intro d hd
      rw [lowerAfter] at hd
      rcases List.mem_append.mp hd with hfirst | hrest
      · by_cases hsigma : (c.toNat == 0x3A3) = true
        · -- Both sigmas that the rule can give are small.
          rw [if_pos hsigma] at hfirst
          split at hfirst
          · rw [List.mem_singleton.mp hfirst]
            exact isSmall_of_not_covers _ (by decide) (by decide)
              (caseRuns_checked.2.2 0x3C2 (by decide))
          · rw [List.mem_singleton.mp hfirst]
            exact isSmall_of_not_covers _ (by decide) (by decide)
              (caseRuns_checked.2.2 0x3C3 (by decide))
        · rw [if_neg hsigma] at hfirst
          exact isSmall_of_mem_lowerChar c d hfirst
      · exact ih (c :: before) d hrest

/-- A character before the small letters of ASCII that has no small letter stays
    where it is, and no other becomes one. -/
theorem mem_lowerAfter_iff (before cs : List Char) (c : Char) (hc : IsSmall c)
    (hlow : c.toNat < 97) : c ∈ lowerAfter before cs ↔ c ∈ cs := by
  induction cs generalizing before with
  | nil => rfl
  | cons d cs ih =>
      rw [lowerAfter, List.mem_append, ih, List.mem_cons]
      refine or_congr_left ?_
      by_cases hsigma : (d.toNat == 0x3A3) = true
      · -- Neither the capital sigma nor the small ones stand before those letters.
        rw [if_pos hsigma]
        rw [beq_iff_eq] at hsigma
        refine iff_of_false (fun hmem => ?_) (fun heq => hc.notSigma (heq ▸ hsigma))
        split at hmem
        all_goals
          rw [List.mem_singleton.mp hmem] at hlow
          exact absurd hlow (by decide)
      · rw [if_neg hsigma]
        refine ⟨fun hmem => eq_of_mem_lowerChar d c hmem hlow, ?_⟩
        rintro rfl
        rw [hc.own]
        exact List.mem_singleton_self c

theorem lowerChar_ne_nil (c : Char) : lowerChar c ≠ [] := by
  unfold lowerChar
  split
  · exact List.cons_ne_nil _ _
  · split
    · exact List.cons_ne_nil _ _
    · split <;> exact List.cons_ne_nil _ _

/-- No character is lost when a text is lower-cased. -/
theorem lower_ne_nil (cs : List Char) (h : cs ≠ []) : lower cs ≠ [] := by
  rcases List.exists_cons_of_ne_nil h with ⟨c, rest, rfl⟩
  rw [lower, lowerAfter]
  refine List.append_ne_nil_of_left_ne_nil ?_ _
  by_cases hsigma : (c.toNat == 0x3A3) = true
  · rw [if_pos hsigma]
    split <;> exact List.cons_ne_nil _ _
  · rw [if_neg hsigma]
    exact lowerChar_ne_nil c

/-- Lower-casing a text twice is lower-casing it once. -/
theorem lower_lower (cs : List Char) : lower (lower cs) = lower cs :=
  lowerAfter_eq_self [] (lower cs) (isSmall_of_mem_lowerAfter [] cs)

end Text

theorem lowered_lowered (s : String) : lowered (lowered s) = lowered s := by
  rw [lowered, lowered, String.toList_ofList, Text.lower_lower]

end SimTerm
