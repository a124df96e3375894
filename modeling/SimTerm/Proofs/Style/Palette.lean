import SimTerm.Style.Control

/-!
# Colours and the Codes that Set Them

Styles whose colours are in the palette, and the codes that write such a style
down.

A style can hold any text as a colour, and one that is not in the palette has
no code, so writing it down loses it. No code ever brings such a colour in:
`applyCode_usesPalette` goes through all codes once, and everything that pens
and texts do to a style follows from it.

Two bright and normal codes share one value, white. Writing takes the lesser
of them and reading gives the value back, so the code that was used is
forgotten and the style is not. `exists_colourCode` says this for each of the
sixteen entries, and `applyCodes_codes` puts it together with the flags: after
the codes of a style any style has become that one.

## Main definitions

* `Style.UsesPalette`: Both colours, where set, are in the palette.

## Theorems

* `applyCode_usesPalette`: A code keeps the colours in the palette.
* `exists_colourCode`: A colour has a code that sets it again.
* `applyCodes_codes`: The codes of a style set it, whatever was set before.
* `codes_lt`: Codes are small numbers.
-/

namespace SimTerm

/-- The colours that codes can set. -/
def paletteColours : List String := palette.map Prod.snd

theorem colour?_mem (n : Nat) (c : String) (h : colour? n = some c) : c ∈ paletteColours := by
  rcases Option.map_eq_some_iff.mp h with ⟨entry, hentry, hc⟩
  exact List.mem_map.mpr ⟨entry, List.mem_of_find?_eq_some hentry, hc⟩

theorem colourCode?_lt (c : String) (n : Nat) (h : colourCode? c = some n) : n < 100 := by
  rcases Option.map_eq_some_iff.mp h with ⟨entry, hentry, hn⟩
  have hall : ∀ entry ∈ palette, entry.1 < 100 := by decide
  rw [← hn]
  exact hall entry (List.mem_of_find?_eq_some hentry)

/-- A colour of the palette has a code that sets it as foreground, and ten
    more set it as background. -/
theorem exists_colourCode (c : String) (h : c ∈ paletteColours) :
    ∃ n, colourCode? c = some n ∧
      (∀ s : Style, s.applyCode n = { s with foreground := some c }) ∧
      ∀ s : Style, s.applyCode (n + 10) = { s with background := some c } := by
  simp only [paletteColours, palette, List.map_cons, List.map_nil, List.mem_cons,
    List.not_mem_nil, or_false] at h
  rcases h with rfl | rfl | rfl | rfl | rfl | rfl | rfl | rfl | rfl | rfl | rfl | rfl | rfl |
    rfl | rfl | rfl
  all_goals exact ⟨_, rfl, fun s => rfl, fun s => rfl⟩

namespace Style

/-- Both colours, where they are set, are in the palette. -/
structure UsesPalette (s : Style) : Prop where
  /-- The colour of the letters is in the palette. -/
  foreground_mem : ∀ c ∈ s.foreground, c ∈ paletteColours
  /-- The colour behind the letters is in the palette. -/
  background_mem : ∀ c ∈ s.background, c ∈ paletteColours

theorem plain_usesPalette : plain.UsesPalette :=
  ⟨fun c hc => absurd hc (Option.not_mem_none c), fun c hc => absurd hc (Option.not_mem_none c)⟩

/-- A code keeps the colours in the palette. -/
theorem applyCode_usesPalette (s : Style) (n : Nat) (hs : s.UsesPalette) :
    (s.applyCode n).UsesPalette := by
  have hfore : ∀ c, c ∈ paletteColours → { s with foreground := some c }.UsesPalette := by
    intro c hc
    exact ⟨fun d hd => Option.mem_some.mp hd ▸ hc, hs.background_mem⟩
  have hback : ∀ c, c ∈ paletteColours → { s with background := some c }.UsesPalette := by
    intro c hc
    exact ⟨hs.foreground_mem, fun d hd => Option.mem_some.mp hd ▸ hc⟩
  unfold applyCode
  split
  case h_1 => exact plain_usesPalette
  case h_12 => exact ⟨fun c hc => absurd hc (Option.not_mem_none c), hs.background_mem⟩
  case h_13 => exact ⟨hs.foreground_mem, fun c hc => absurd hc (Option.not_mem_none c)⟩
  case h_14 =>
    -- Only a code outside the table of flags can set a colour.
    cases hn : colour? n with
    | some c => exact hfore c (colour?_mem n c hn)
    | none =>
        by_cases hsmall : n < 10
        · rw [if_pos hsmall]
          exact hs
        · rw [if_neg hsmall]
          cases hb : colour? (n - 10) with
          | some c => exact hback c (colour?_mem (n - 10) c hb)
          | none => exact hs
  all_goals exact ⟨hs.foreground_mem, hs.background_mem⟩

theorem applyCodes_usesPalette (s : Style) (ns : List Nat) (hs : s.UsesPalette) :
    (s.applyCodes ns).UsesPalette := by
  induction ns generalizing s with
  | nil => exact hs
  | cons n ns ih => exact ih (s.applyCode n) (applyCode_usesPalette s n hs)

theorem applyCodes_append (s : Style) (ms ns : List Nat) :
    s.applyCodes (ms ++ ns) = (s.applyCodes ms).applyCodes ns := by
  rw [applyCodes, List.foldl_append]
  rfl

/-- The codes of a style set it, whatever was set before. -/
theorem applyCodes_codes (s t : Style) (hs : s.UsesPalette) : t.applyCodes s.codes = s := by
  -- The leading zero clears, then each flag is set where the style has it.
  have hflags : t.applyCodes ([0] ++ (if s.bold then [1] else []) ++
      (if s.italic then [3] else []) ++ (if s.underline then [4] else []) ++
      (if s.inverse then [7] else []) ++ (if s.strikethrough then [9] else []))
        = { s with foreground := none, background := none } := by
    rcases s with ⟨bold, italic, underline, strikethrough, inverse, _, _⟩
    cases bold <;> cases italic <;> cases underline <;> cases strikethrough <;> cases inverse <;> rfl
  -- The colours are looked up by their codes, which the palette has.
  have hfore : ({ s with foreground := none, background := none } : Style).applyCodes
      (s.foreground.bind colourCode?).toList = { s with background := none } := by
    cases hf : s.foreground with
    | none => rw [Option.bind_none, Option.toList_none, ← hf]; rfl
    | some c =>
        rcases exists_colourCode c (hs.foreground_mem c hf) with ⟨n, hn, hset, _⟩
        rw [Option.bind_some, hn, Option.toList_some, ← hf]
        exact (hset _).trans (by rw [hf])
  have hback : ({ s with background := none } : Style).applyCodes
      ((s.background.bind colourCode?).map (· + 10)).toList = s := by
    cases hb : s.background with
    | none => rw [Option.bind_none, Option.map_none, Option.toList_none, ← hb]; rfl
    | some c =>
        rcases exists_colourCode c (hs.background_mem c hb) with ⟨n, hn, _, hset⟩
        rw [Option.bind_some, hn, Option.map_some, Option.toList_some]
        exact (hset _).trans (by rw [← hb])
  rw [codes, applyCodes_append, applyCodes_append, hflags, hfore, hback]

/-- Codes are small numbers, so none has too many digits to be read. -/
theorem codes_lt (s : Style) : ∀ n ∈ s.codes, n < 1000 := by
  have hflag : ∀ (b : Bool) (k n : Nat), k < 1000 → n ∈ (if b then [k] else []) → n < 1000 := by
    intro b k n hk hn
    cases b with
    | true => rw [List.mem_singleton.mp hn]; exact hk
    | false => exact absurd hn List.not_mem_nil
  intro n hn
  simp only [codes, List.mem_append, or_assoc] at hn
  rcases hn with hn | hn | hn | hn | hn | hn | hn | hn
  · rw [List.mem_singleton.mp hn]
    omega
  · exact hflag _ 1 n (by omega) hn
  · exact hflag _ 3 n (by omega) hn
  · exact hflag _ 4 n (by omega) hn
  · exact hflag _ 7 n (by omega) hn
  · exact hflag _ 9 n (by omega) hn
  · rcases Option.bind_eq_some_iff.mp (Option.mem_toList.mp hn) with ⟨c, _, hc⟩
    have := colourCode?_lt c n hc
    omega
  · -- A background has ten more than the code of its colour.
    rcases Option.map_eq_some_iff.mp (Option.mem_toList.mp hn) with ⟨m, hm, rfl⟩
    rcases Option.bind_eq_some_iff.mp hm with ⟨c, _, hc⟩
    have := colourCode?_lt c m hc
    omega

end Style

end SimTerm
