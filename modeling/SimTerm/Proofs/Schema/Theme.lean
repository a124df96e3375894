import SimTerm.Proofs.Schema.Decision
import SimTerm.Proofs.Yaml.Hexadecimal

/-!
# Documents that Write Themes

Which documents write a theme, and which one.

A theme takes its three colours, a word on details and the sixteen colours of
its two groups. `Writes` asks for all of them by name, and for each colour of a
group by the name of the colour, so that no two of them can change places. As
for workflows it has the class of values that may stand for a text as a
parameter, and only the values that a theme takes count.

What else a document says does not matter. It may say other things at each of
its three levels, and two documents that say the same under the keys of a theme
give the same (`ofEntries_congr`). Where a text belongs all lists and mappings
are the same too, since they are refused for what they are.

## Main definitions

* `Theme.Writes`: The entries of a document write a theme.
* `Theme.Takes`: A value stands where a theme takes a text.
* `Theme.IsWrittenBy`, `Theme.IsShort`: The same of a whole document.
* `Theme.SameKeys`: Two documents say the same under the keys of a theme.

## Theorems

* `Theme.decides_ofEntries`: What the entries of a document give.
* `Theme.ofValue_congr`: Other keys do not count.
* `theme_read_iff`: What comes of a text.
* `theme_reading_breaks`: A document that is not refused.
-/

namespace SimTerm

namespace Theme

open Schema
open Yaml (Value)

/-- The fields that hold one text. -/
def textKeys : List String := ["accent", "background", "foreground", "details"]

/-- The groups of colours. -/
def groupKeys : List String := ["normal", "bright"]

/-- The entries of a group say what each colour looks like. -/
def Paints (P : Value → Prop) (data : Entries) (p : Palette) : Prop :=
  ∀ c : Colour, TextIn P data c.name (some (p.get c)) ∧ IsFilled (p.get c)

/-- A group is a mapping that says what each colour looks like. -/
def PaintsIn (P : Value → Prop) (groups : Entries) (group : String) (p : Palette) : Prop :=
  ∃ node data, Value.lookup? groups group = some (.mapping node data) ∧ Paints P data p

/-- How details are drawn: as the document says, or darker if it says nothing. -/
inductive DetailsIn (P : Value → Prop) (data : Entries) : String → Prop where
  | absent (h : TextIn P data "details" none) : DetailsIn P data "darker"
  | empty (h : TextIn P data "details" (some "")) : DetailsIn P data "darker"
  | present (s : String) (hs : s ≠ "") (h : TextIn P data "details" (some s)) : DetailsIn P data s

/-- The entries of a document write a theme: its texts are those of values of
    the class `P`, and all that it needs is there and not blank. -/
structure Writes (P : Value → Prop) (data : Entries) (t : Theme) : Prop where
  accent : TextIn P data "accent" (some t.accent)
  accentFilled : IsFilled t.accent
  background : TextIn P data "background" (some t.background)
  backgroundFilled : IsFilled t.background
  foreground : TextIn P data "foreground" (some t.foreground)
  foregroundFilled : IsFilled t.foreground
  details : DetailsIn P data t.details
  groups : ∃ node groups, Value.lookup? data "terminal_colors" = some (.mapping node groups) ∧
    PaintsIn P groups "normal" t.normal ∧ PaintsIn P groups "bright" t.bright

/-- A value stands where a theme takes a text: in a field of its own, or for a
    colour of one of its groups. -/
inductive Takes (data : Entries) : Value → Prop where
  | field (key : String) (v : Value) (hkey : key ∈ textKeys) (h : field? data key = some v) :
      Takes data v
  | colour (node inner : Nat) (groups entries : Entries) (group : String) (c : Colour) (v : Value)
      (h : Value.lookup? data "terminal_colors" = some (.mapping node groups))
      (hkey : group ∈ groupKeys)
      (hgroup : Value.lookup? groups group = some (.mapping inner entries))
      (hv : field? entries c.name = some v) : Takes data v

/-- All that a theme takes can be shown. -/
def Shown (data : Entries) : Prop := ∀ v, Takes data v → v.IsFlat → v.IsShown

theorem decides_paletteOfEntries (data : Entries) :
    Decides (∀ c : Colour, ShownIn data c.name) (paletteOfEntries data)
      (Paints Value.IsFlat data) := by
  have hlook := fun c : Colour => decides_required data c.name
  have hall := (hlook .black).bind fun black _ => (hlook .red).bind fun red _ =>
    (hlook .green).bind fun green _ => (hlook .yellow).bind fun yellow _ =>
    (hlook .blue).bind fun blue _ => (hlook .magenta).bind fun magenta _ =>
    (hlook .cyan).bind fun cyan _ => (hlook .white).bind fun white _ =>
      .pure (Palette.mk black red green yellow blue magenta cyan white)
  -- A group is asked for all colours at once and read one colour after the other.
  unfold paletteOfEntries
  refine hall.congr ⟨?_, fun h => ⟨h _, h _, h _, h _, h _, h _, h _, h _, trivial⟩⟩
    fun p => ⟨?_, fun h => ⟨_, h .black, _, h .red, _, h .green, _, h .yellow, _, h .blue, _,
      h .magenta, _, h .cyan, _, h .white, rfl⟩⟩
  · rintro ⟨hblack, hred, hgreen, hyellow, hblue, hmagenta, hcyan, hwhite, _⟩ c
    cases c <;> assumption
  · rintro ⟨black, hblack, red, hred, green, hgreen, yellow, hyellow, blue, hblue, magenta,
      hmagenta, cyan, hcyan, white, hwhite, rfl⟩ c
    cases c <;> assumption

/-- The colours of a group can be shown, if it is a mapping. -/
def ColoursShownIn (groups : Entries) (group : String) : Prop :=
  ∀ node data, Value.lookup? groups group = some (.mapping node data) →
    ∀ c : Colour, ShownIn data c.name

theorem decides_paletteOf (groups : Entries) (group : String) :
    Decides (ColoursShownIn groups group) (paletteOf groups group)
      (PaintsIn Value.IsFlat groups group) := by
  unfold paletteOf
  split
  case h_1 node data hgroup =>
    -- There is one mapping under the key, so that what is said of any is said of this one.
    have honly : ∀ inner entries, Value.lookup? groups group = some (.mapping inner entries) →
        data = entries := fun inner entries h =>
      (Value.mapping.inj (Option.some.inj (hgroup.symm.trans h))).2
    refine (decides_paletteOfEntries data).congr
      ⟨fun h inner entries heq => honly inner entries heq ▸ h, fun h => h node data hgroup⟩
      fun p => ⟨fun h => ⟨node, data, hgroup, h⟩, ?_⟩
    rintro ⟨inner, entries, heq, h⟩
    exact honly inner entries heq ▸ h
  case h_2 hno =>
    refine .refused ?_
    rintro p ⟨node, data, hgroup, _⟩
    exact hno node data hgroup

theorem detailsIn_iff (data : Entries) (details : String) :
    DetailsIn Value.IsFlat data details ↔
      ∃ o, TextIn Value.IsFlat data "details" o ∧ details = detailsOf o := by
  constructor
  · rintro (h | h | ⟨_, hs, h⟩)
    · exact ⟨none, h, rfl⟩
    · exact ⟨some "", h, rfl⟩
    · refine ⟨some details, h, ?_⟩
      rw [detailsOf, if_neg (by rwa [String.isEmpty_iff])]
  · rintro ⟨_ | s, h, rfl⟩
    · exact .absent h
    · rw [detailsOf]
      split
      case isTrue hempty => exact .empty (String.isEmpty_iff.mp hempty ▸ h)
      case isFalse hne => exact .present s (mt String.isEmpty_iff.mpr hne) h

theorem shown_iff {data : Entries} {node : Nat} {groups : Entries}
    (hgroups : Value.lookup? data "terminal_colors" = some (.mapping node groups)) :
    Shown data ↔ (∀ key ∈ textKeys, ShownIn data key) ∧
      (∀ group ∈ groupKeys, ColoursShownIn groups group) := by
  constructor
  · intro h
    exact ⟨fun key hkey v hv => h v (.field key v hkey hv),
      fun group hgroup inner entries heq c v hv =>
        h v (.colour node inner groups entries group c v hgroups hgroup heq hv)⟩
  · rintro ⟨htexts, hcolours⟩ v hv
    cases hv with
    | field key _ hkey h => exact htexts key hkey v h
    | colour _ inner groups' entries group c _ h hkey hgroup hv =>
        cases Option.some.inj (hgroups.symm.trans h)
        exact hcolours group hkey inner entries hgroup c v hv

/-- The entries of a document give the theme that they write. -/
theorem decides_ofEntries (data : Entries) :
    Decides (Shown data) (ofEntries data) (Writes Value.IsFlat data) := by
  unfold ofEntries
  split
  case h_1 node groups hgroups =>
    -- That there are groups is looked at first, and what is in them is read last.
    have hall := (decides_required data "accent").bind fun accent _ =>
      (decides_required data "background").bind fun background _ =>
      (decides_required data "foreground").bind fun foreground _ =>
      (decides_scalar data "details").bind fun details _ =>
      (decides_paletteOf groups "normal").bind fun normal _ =>
      (decides_paletteOf groups "bright").bind fun bright _ =>
        .pure (Theme.mk accent background foreground (detailsOf details) normal bright)
    refine hall.congr ?_ fun t => ⟨?_, fun h => ?_⟩
    · rw [shown_iff hgroups]
      simp only [textKeys, groupKeys, List.forall_mem_cons, List.not_mem_nil, false_implies,
        implies_true]
      tauto
    · rintro ⟨accent, ⟨haccent, haccentFilled⟩, background, ⟨hbackground, hbackgroundFilled⟩,
        foreground, ⟨hforeground, hforegroundFilled⟩, details, hdetails, normal, hnormal, bright,
        hbright, rfl⟩
      exact ⟨haccent, haccentFilled, hbackground, hbackgroundFilled, hforeground,
        hforegroundFilled, (detailsIn_iff data _).mpr ⟨details, hdetails, rfl⟩,
        ⟨node, groups, hgroups, hnormal, hbright⟩⟩
    · rcases (detailsIn_iff data _).mp h.details with ⟨details, hdetails, heq⟩
      rcases h.groups with ⟨_, _, hsame, hnormal, hbright⟩
      cases Option.some.inj (hgroups.symm.trans hsame)
      exact ⟨t.accent, ⟨h.accent, h.accentFilled⟩, t.background,
        ⟨h.background, h.backgroundFilled⟩, t.foreground, ⟨h.foreground, h.foregroundFilled⟩,
        details, hdetails, t.normal, hnormal, t.bright, hbright, heq ▸ rfl⟩
  case h_2 hno =>
    refine .refused fun t h => ?_
    rcases h.groups with ⟨node, groups, hgroups, _⟩
    exact hno node groups hgroups

/-! ### What a theme takes -/

section

variable {P Q : Value → Prop} {data : Entries} {t : Theme}

theorem DetailsIn.mono {details : String} (h : DetailsIn P data details)
    (hP : ∀ o, TextIn P data "details" o → TextIn Q data "details" o) :
    DetailsIn Q data details := by
  rcases h with h | h | ⟨_, hs, h⟩
  · exact .absent (hP _ h)
  · exact .empty (hP _ h)
  · exact .present details hs (hP _ h)

theorem DetailsIn.textIn {details : String} (h : DetailsIn P data details) :
    ∃ o, TextIn P data "details" o := by
  rcases h with h | h | ⟨_, _, h⟩ <;> exact ⟨_, h⟩

/-- The class of values matters only where a theme takes one. -/
theorem Writes.mono (h : Writes P data t) (hP : ∀ v, Takes data v → P v → Q v) :
    Writes Q data t := by
  have htext : ∀ key ∈ textKeys, ∀ o, TextIn P data key o → TextIn Q data key o :=
    fun key hkey o ho => ho.mono fun v hv => hP v (.field key v hkey hv)
  have hgroup : ∀ node groups, Value.lookup? data "terminal_colors" = some (.mapping node groups) →
      ∀ group ∈ groupKeys, ∀ p, PaintsIn P groups group p → PaintsIn Q groups group p := by
    rintro node groups hgroups group hkey p ⟨inner, entries, hentries, hpaints⟩
    refine ⟨inner, entries, hentries, fun c => ⟨(hpaints c).1.mono fun v hv => ?_, (hpaints c).2⟩⟩
    exact hP v (.colour node inner groups entries group c v hgroups hkey hentries hv)
  exact {
    accent := htext _ (by simp [textKeys]) _ h.accent
    accentFilled := h.accentFilled
    background := htext _ (by simp [textKeys]) _ h.background
    backgroundFilled := h.backgroundFilled
    foreground := htext _ (by simp [textKeys]) _ h.foreground
    foregroundFilled := h.foregroundFilled
    details := h.details.mono (htext _ (by simp [textKeys]))
    groups := by
      rcases h.groups with ⟨node, groups, hgroups, hnormal, hbright⟩
      exact ⟨node, groups, hgroups, hgroup node groups hgroups _ (by simp [groupKeys]) _ hnormal,
        hgroup node groups hgroups _ (by simp [groupKeys]) _ hbright⟩ }

theorem Writes.textIn (h : Writes P data t) : ∀ key ∈ textKeys, ∃ o, TextIn P data key o := by
  simp only [textKeys, List.forall_mem_cons, List.not_mem_nil, false_implies, implies_true,
    and_true]
  exact ⟨⟨_, h.accent⟩, ⟨_, h.background⟩, ⟨_, h.foreground⟩, h.details.textIn⟩

/-- All that a document holds where a theme takes a text is of the class. -/
theorem Writes.holds (h : Writes P data t) {v : Value} (hv : Takes data v) : P v := by
  cases hv with
  | field key _ hkey hv => exact (h.textIn key hkey).elim fun _ htext => htext.holds hv
  | colour node inner groups entries group c _ hgroups hkey hgroup hv =>
      rcases h.groups with ⟨_, _, hsame, hnormal, hbright⟩
      cases Option.some.inj (hgroups.symm.trans hsame)
      have hpaints : ∃ p, PaintsIn P groups group p := by
        simp only [groupKeys, List.mem_cons, List.not_mem_nil, or_false] at hkey
        rcases hkey with rfl | rfl
        · exact ⟨_, hnormal⟩
        · exact ⟨_, hbright⟩
      rcases hpaints with ⟨p, _, _, hentries, hpaints⟩
      cases Option.some.inj (hgroup.symm.trans hentries)
      exact (hpaints c).1.holds hv

end

/-! ### Plain documents -/

/-- A theme is what a document writes. -/
def IsWrittenBy (P : Value → Prop) (v : Value) (t : Theme) : Prop :=
  IsMappingOf v (Writes P · t)

/-- No whole number that a document holds where a theme takes a text has more
    digits than a number that is shown may have. -/
def IsShort (v : Value) : Prop :=
  ∀ node data, v = .mapping node data → ∀ n, Takes data (.int n) → n.natAbs < 10 ^ Text.maxDigits

theorem Takes.isPlain {data : Entries} {v : Value} (h : Takes data v)
    (hdata : ∀ e ∈ data, e.2.IsPlain) : v.IsPlain := by
  cases h with
  | field key _ _ h => exact isPlain_of_field? hdata h
  | colour node inner groups entries group c _ h _ hgroup hv =>
      have hgroups := (isPlain_of_lookup? hdata h).of_mem_mapping
      have hentries := (isPlain_of_lookup? hgroups hgroup).of_mem_mapping
      exact isPlain_of_field? hentries hv

/-! ### Documents with other keys -/

/-- Two fields hold the same value, or each holds a list or a mapping. -/
inductive SameText : Option Value → Option Value → Prop where
  | same (o : Option Value) : SameText o o
  | lists (v v' : Value) (h : ¬ v.IsFlat) (h' : ¬ v'.IsFlat) : SameText (some v) (some v')

/-- Two values are mappings with entries that `R` relates, or neither is a
    mapping. -/
inductive SameMapping (R : Entries → Entries → Prop) : Option Value → Option Value → Prop where
  | both (node node' : Nat) (data data' : Entries) (h : R data data') :
      SameMapping R (some (.mapping node data)) (some (.mapping node' data'))
  | neither (o o' : Option Value) (h : ∀ node data, o ≠ some (.mapping node data))
      (h' : ∀ node data, o' ≠ some (.mapping node data)) : SameMapping R o o'

/-- Two groups say the same about each colour. -/
def SameColours (data data' : Entries) : Prop :=
  ∀ c : Colour, SameText (field? data c.name) (field? data' c.name)

/-- Two documents say the same under the keys of a theme, whatever else they say. -/
structure SameKeys (data data' : Entries) : Prop where
  texts : ∀ key ∈ textKeys, SameText (field? data key) (field? data' key)
  colours : SameMapping
    (fun groups groups' => ∀ group ∈ groupKeys,
      SameMapping SameColours (Value.lookup? groups group) (Value.lookup? groups' group))
    (Value.lookup? data "terminal_colors") (Value.lookup? data' "terminal_colors")

theorem scalarText_of_not_isFlat {key : String} {v : Value} (h : ¬ v.IsFlat) :
    scalarText key v = .error (.refused (.noScalar key)) := by
  rw [scalarText, if_pos (Bool.of_not_eq_false h)]

theorem scalar_congr {data data' : Entries} {key : String}
    (h : SameText (field? data key) (field? data' key)) : scalar data key = scalar data' key := by
  unfold scalar
  generalize field? data key = o, field? data' key = o' at h
  cases h with
  | same => rfl
  | lists v v' h h' =>
      dsimp only
      rw [scalarText_of_not_isFlat h, scalarText_of_not_isFlat h']

theorem required_congr {data data' : Entries} {key : String}
    (h : SameText (field? data key) (field? data' key)) :
    required data key = required data' key := by
  unfold required
  generalize field? data key = o, field? data' key = o' at h
  cases h with
  | same => rfl
  | lists v v' h h' =>
      dsimp only
      rw [scalarText_of_not_isFlat h, scalarText_of_not_isFlat h']

theorem paletteOf_congr {groups groups' : Entries} {group : String}
    (h : SameMapping SameColours (Value.lookup? groups group) (Value.lookup? groups' group)) :
    paletteOf groups group = paletteOf groups' group := by
  unfold paletteOf
  generalize Value.lookup? groups group = o, Value.lookup? groups' group = o' at h
  cases h with
  | both node node' data data' h =>
      have hlook : ∀ c : Colour, required data c.name = required data' c.name := fun c =>
        required_congr (h c)
      dsimp only
      unfold paletteOfEntries
      simp only [hlook]
  | neither _ _ hno hno' =>
      split
      · exact absurd rfl (hno _ _)
      · rfl

theorem ofEntries_congr {data data' : Entries} (h : SameKeys data data') :
    ofEntries data = ofEntries data' := by
  have hrequired : ∀ key ∈ textKeys, required data key = required data' key := fun key hkey =>
    required_congr (h.texts key hkey)
  have hscalar := scalar_congr (h.texts "details" (by simp [textKeys]))
  have hcolours := h.colours
  unfold ofEntries
  generalize Value.lookup? data "terminal_colors" = o,
    Value.lookup? data' "terminal_colors" = o' at hcolours
  cases hcolours with
  | both node node' groups groups' hgroups =>
      dsimp only
      rw [hrequired "accent" (by simp [textKeys]), hrequired "background" (by simp [textKeys]),
        hrequired "foreground" (by simp [textKeys]), hscalar,
        paletteOf_congr (hgroups "normal" (by simp [groupKeys])),
        paletteOf_congr (hgroups "bright" (by simp [groupKeys]))]
  | neither _ _ hno hno' =>
      split
      · exact absurd rfl (hno _ _)
      · rfl

/-- Documents that say the same under the keys of a theme give the same. -/
theorem ofValue_congr {v v' : Value} (h : SameMapping SameKeys (some v) (some v')) :
    ofValue v = ofValue v' := by
  unfold ofValue
  cases h with
  | both node node' data data' h => exact ofEntries_congr h
  | neither _ _ hno hno' =>
      have hrefused : ∀ v, (∀ node data, some v ≠ some (Value.mapping node data)) →
          entriesOf v = .error (.refused .noMapping) := fun v hno => by
        unfold entriesOf
        split
        · exact absurd rfl (hno _ _)
        · rfl
      rw [hrefused v hno, hrefused v' hno']

end Theme

namespace Schema

open Yaml (Value)

/-- What a text gives that is a plain document. It gives exactly the theme that
    it writes, and if it writes none it is refused, so long as it has no whole
    number with too many digits in the place of a text. With such a number the
    theme that it writes does not come of it. -/
theorem theme_read_iff (text : String) (v : Value) (hv : Value.ofText text.toList = .ok v)
    (hplain : v.IsPlain) :
    (∀ t, Theme.read text = .ok ⟨some t, []⟩ ↔
        Theme.IsWrittenBy Value.IsScalar v t ∧ Theme.IsShort v) ∧
      (Theme.IsShort v → (∀ t, ¬ Theme.IsWrittenBy Value.IsScalar v t) →
        ∃ reason, Theme.read text = .ok ⟨none, [.themeRejected reason]⟩) ∧
      (¬ Theme.IsShort v → ∀ t, Theme.IsWrittenBy Value.IsScalar v t →
        ∃ c, Theme.read text = .error c) ∧
      (∀ text' v', Value.ofText text'.toList = .ok v' →
        Theme.SameMapping Theme.SameKeys (some v) (some v') →
          Theme.read text' = Theme.read text) := by
  have hread := decides_ofText hv Theme.decides_ofEntries
  have hentries : ∀ node data, v = .mapping node data → ∀ e ∈ data, e.2.IsPlain :=
    fun node data heq => (heq ▸ hplain).of_mem_mapping
  have hplainly : Decides (Theme.IsShort v) (Theme.ofText text)
      (Theme.IsWrittenBy Value.IsScalar v) := by
    refine hread.congr ?_ fun t => ?_
    · exact forall_congr' fun node => forall_congr' fun data => forall_congr' fun heq =>
        shown_iff_short fun x (hx : Theme.Takes data x) => hx.isPlain (hentries node data heq)
    · refine exists_congr fun node => exists_congr fun data => and_congr_right fun heq => ?_
      exact ⟨fun h => h.mono fun x hx => (hx.isPlain (hentries node data heq)).isScalar_iff.mpr,
        fun h => h.mono fun x _ => Value.IsScalar.isFlat⟩
  rcases hplainly.settles Event.themeRejected with ⟨haccepted, hrefused, hbroken⟩
  refine ⟨haccepted, hrefused, hbroken, fun text' v' hv' hsame => ?_⟩
  rw [Theme.read, Theme.read, Theme.ofText, Theme.ofText, valueOf_bind hv, valueOf_bind hv',
    Theme.ofValue_congr hsame]

/-- A theme of which the two groups are one, with a number for a colour and with
    nothing said about details. -/
def sharedTheme : String :=
  "accent: 1\nbackground: b\nforeground: f\nterminal_colors:\n normal: &n\n  black: k\n" ++
    "  red: r\n  green: g\n  yellow: y\n  blue: b\n  magenta: m\n  cyan: c\n  white: w\n" ++
    " bright: *n"

/-- What both groups of it say. -/
def sharedPalette : Palette := ⟨"k", "r", "g", "y", "b", "m", "c", "w"⟩

/-- What comes of reading it. -/
theorem sharedTheme_value : ∃ v, Value.ofText sharedTheme.toList = .ok v ∧ v.isPlain = true ∧
    Theme.ofText sharedTheme = .ok ⟨"1", "b", "f", "darker", sharedPalette, sharedPalette⟩ :=
  exists_value sharedTheme Value.isPlain Theme.ofValue
    ⟨"1", "b", "f", "darker", sharedPalette, sharedPalette⟩ (by decide +kernel)

theorem theme_read_iff_shared :
    ∃ v, Value.ofText sharedTheme.toList = .ok v ∧ v.IsPlain ∧
      Theme.IsWrittenBy Value.IsScalar v ⟨"1", "b", "f", "darker", sharedPalette, sharedPalette⟩ ∧
      Theme.IsShort v := by
  rcases sharedTheme_value with ⟨v, hv, hplain, hread⟩
  have hplain := Value.IsPlain.of_isPlain v hplain
  exact ⟨v, hv, hplain, ((theme_read_iff _ v hv hplain).1 _).mp
    (congrArg (accepted Event.themeRejected) hread)⟩

/-- The reading breaks off at a long number for an accent, whatever else is missing. -/
theorem read_of_long_accent {text : String} {n : Int} (hn : ¬ n.natAbs < 10 ^ Text.maxDigits)
    (hv : Value.ofText text.toList =
      .ok (.mapping 0 [(.text "terminal_colors", .mapping 2 []), (.text "accent", .int n)])) :
    Theme.read text = .error (.conversion .badNumber) := by
  have haccent : required [(.text "terminal_colors", .mapping 2 []), (.text "accent", .int n)]
      "accent" = .error (.halted (.conversion .badNumber)) := required_long rfl hn
  have hbroken : Theme.ofValue (.mapping 0 [(.text "terminal_colors", .mapping 2 []),
      (.text "accent", .int n)]) = .error (.halted (.conversion .badNumber)) := by
    change Theme.ofEntries [(.text "terminal_colors", .mapping 2 []), (.text "accent", .int n)] = _
    unfold Theme.ofEntries
    rw [haccent]
    rfl
  rw [Theme.read, Theme.ofText, valueOf_bind hv, hbroken]
  rfl

/-- A document with a long number for an accent and nothing in its groups, which
    has no background, writes no theme, and it is not refused. -/
theorem theme_reading_breaks :
    Value.ofText (String.ofList (Yaml.accentText 3572)).toList =
        .ok (.mapping 0 [(.text "terminal_colors", .mapping 2 []),
          (.text "accent", .int Yaml.longNumber)]) ∧
      (Value.mapping 0 [(.text "terminal_colors", .mapping 2 []),
        (.text "accent", .int Yaml.longNumber)]).IsPlain ∧
      (∀ t, ¬ Theme.IsWrittenBy Value.IsScalar
        (.mapping 0 [(.text "terminal_colors", .mapping 2 []),
          (.text "accent", .int Yaml.longNumber)]) t) ∧
      Theme.read (String.ofList (Yaml.accentText 3572)) = .error (.conversion .badNumber) := by
  have hv : Value.ofText (String.ofList (Yaml.accentText 3572)).toList =
      .ok (.mapping 0 [(.text "terminal_colors", .mapping 2 []),
        (.text "accent", .int Yaml.longNumber)]) := by
    rw [String.toList_ofList]
    exact Value.ofText_longAccent
  refine ⟨hv, .of_isPlain _ rfl, ?_, read_of_long_accent Yaml.longNumber_too_long hv⟩
  rintro t ⟨_, _, heq, h⟩
  cases heq
  have hbackground := (textIn_of_absent rfl _).mp h.background
  exact absurd hbackground (Option.some_ne_none _)

end Schema

end SimTerm
