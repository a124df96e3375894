import SimTerm.Command
import SimTerm.Proofs.Text.Words

/-!
# Parts of a Line

A line is cut in two ways at once. One way cuts it at every blank, and gives the
name and the arguments. The other takes off the first word and the blanks behind
it, and gives the remainder as it was written. Some commands read the arguments
and others the remainder, so the two had better tell of the same line.

That they do is not a matter of one definition. The first way keeps the pieces
between blanks that are not empty, the second drops characters from the front, and
before either of them the line is trimmed at both ends. `Command.IsCut` says what
the parts of a line are without any of this, by what the line is put together
from. Parsing gives such parts, and no others are to be had (`cuts_agree`).

The step between the two is a text that is cut once (`CutsOnce`). Its other words
are those of the rest, and the rest is what dropping characters leaves, so the
parts of a line are known as soon as it is cut (`parse_of_cutsOnce`).

## Main definitions

* `Text.CutsOnce`: A text that is cut behind its first word.
* `Command.IsCut`: The parts of a line.

## Theorems

* `exists_cutsOnce`: A phrase can be cut behind its first word.
* `parse_of_words`, `parse_of_cutsOnce`: The parts of a line by its words, and by
  the cut behind the first of them.
* `parse_append`, `parse_two`: The parts of a line of a word and a phrase, and of
  two words.
* `parse_isCut`, `IsCut.eq_parse`: Parsing finds the parts of a line, and there
  are no others.
* `cuts_agree`: The two ways of cutting tell of the same line.
-/

namespace SimTerm

namespace Text

/-- A text that is cut once, behind its first word. -/
structure CutsOnce (cs w gap rest : List Char) : Prop where
  /-- Nothing of the text is lost. -/
  whole : cs = w ++ (gap ++ rest)
  /-- It begins with a word. -/
  word : IsWord w
  /-- The word is followed by blanks. -/
  gap_blank : ∀ b ∈ gap, isBlank b = true
  /-- Only at the end of the text is it followed by none. -/
  gap_nil : gap = [] → rest = []
  /-- The rest has no blanks at its ends. -/
  rest_bare : rest = [] ∨ IsPhrase rest

namespace CutsOnce

variable {cs w gap rest : List Char}

theorem behind_word (h : CutsOnce cs w gap rest) :
    ∀ c ∈ (gap ++ rest).head?, isBlank c = true := by
  intro c hc
  cases hgap : gap with
  | nil =>
      rw [hgap, h.gap_nil hgap] at hc
      exact absurd hc (Option.not_mem_none c)
  | cons b bs =>
      rw [hgap] at hc
      rw [← Option.mem_some.mp hc]
      exact h.gap_blank b (by rw [hgap]; exact List.mem_cons_self)

theorem words_eq (h : CutsOnce cs w gap rest) : words cs = w :: words rest := by
  rw [h.whole, words_append_rest w _ h.word h.behind_word, words_blanks_append gap rest h.gap_blank]

theorem afterFirstWord_eq (h : CutsOnce cs w gap rest) : afterFirstWord cs = rest := by
  have hword : trimLeft (w ++ (gap ++ rest)) = w ++ (gap ++ rest) :=
    dropWhile_isBlank _ (h.word.isPhrase.head_append _)
  have hbehind : afterHead (w ++ (gap ++ rest)) = gap ++ rest :=
    (headWord_append_rest w _ h.word h.behind_word).2
  have hgap : trimLeft (gap ++ rest) = trimLeft rest := List.dropWhile_append_of_pos h.gap_blank
  rw [h.whole, afterFirstWord, hword, hbehind, hgap]
  rcases h.rest_bare with hnil | hphrase
  · rw [hnil]
    rfl
  · exact dropWhile_isBlank rest hphrase.first

end CutsOnce

theorem exists_cutsOnce (cs : List Char) (h : IsPhrase cs) :
    ∃ w gap rest, CutsOnce cs w gap rest := by
  rcases exists_blanks_append (afterHead cs) with ⟨gap, rest, hgap, hrest, hafter⟩
  have hwhole : headWord cs ++ (gap ++ rest) = cs := by
    rw [← hafter, headWord_append_afterHead]
  refine ⟨headWord cs, gap, rest, hwhole.symm, isWord_headWord cs h.ne_nil h.first, hgap, ?_, ?_⟩
  · intro hnone
    cases hcons : rest with
    | nil => rfl
    | cons b bs =>
        -- The first word ends at this character, so it would have to be blank.
        have hblank : isBlank b = true :=
          head?_afterHead cs b (by rw [hafter, hnone, hcons]; rfl)
        rw [hrest b (by rw [hcons]; rfl)] at hblank
        exact absurd hblank Bool.false_ne_true
  · by_cases hnone : rest = []
    · exact .inl hnone
    · -- The rest ends like the text, and the text does not end with a blank.
      have hsuffix : rest <:+ cs := ⟨headWord cs ++ gap, by rw [List.append_assoc, hwhole]⟩
      refine .inr ⟨hnone, hrest, ?_⟩
      rw [List.getLast?_eq_some_getLast hnone, hsuffix.getLast hnone,
        ← List.getLast?_eq_some_getLast]
      exact h.last

theorem cutsOnce_append (w rest : List Char) (hw : IsWord w) (hrest : IsPhrase rest) (b : Char)
    (hb : isBlank b = true) : CutsOnce (w ++ b :: rest) w [b] rest where
  whole := rfl
  word := hw
  gap_blank := List.forall_mem_singleton.mpr hb
  gap_nil := fun h => absurd h (List.cons_ne_nil b [])
  rest_bare := .inr hrest

end Text

namespace Command

/-- The parts of a line by its words. -/
theorem parse_of_words (raw : String) (w : List Char) (rest : List (List Char))
    (h : Text.words raw.toList = w :: rest) :
    parse raw =
      { name := String.ofList (Text.lower w)
        args := rest.map String.ofList
        line := trimmed raw
        remainder := String.ofList (Text.afterFirstWord (Text.trim raw.toList)) } := by
  simp only [parse, Text.words_trim, h, trimmed]

theorem parse_of_words_nil (raw : String) (h : Text.words raw.toList = []) :
    parse raw = { name := "", line := trimmed raw } := by
  simp only [parse, Text.words_trim, h, trimmed]

theorem parse_trimmed (raw : String) : parse (trimmed raw) = parse raw := by
  rw [parse, parse, trimmed, String.toList_ofList, Text.trim_trim]

/-- The parts of a line that is cut behind its first word. -/
theorem parse_of_cutsOnce (raw : String) (w gap rest : List Char)
    (h : Text.CutsOnce (Text.trim raw.toList) w gap rest) :
    parse raw =
      { name := String.ofList (Text.lower w)
        args := (Text.words rest).map String.ofList
        line := trimmed raw
        remainder := String.ofList rest } := by
  have hwords : Text.words raw.toList = w :: Text.words rest := by
    rw [← Text.words_trim, h.words_eq]
  rw [parse_of_words raw w _ hwords, h.afterFirstWord_eq]

/-- The parts of a line of a word and a phrase. -/
theorem parse_append (raw : String) (w rest : List Char) (hw : Text.IsWord w)
    (hrest : Text.IsPhrase rest) (b : Char) (hb : Text.isBlank b = true)
    (hraw : raw.toList = w ++ b :: rest) :
    parse raw =
      { name := String.ofList (Text.lower w)
        args := (Text.words rest).map String.ofList
        line := raw
        remainder := String.ofList rest } := by
  have htrim : Text.trim raw.toList = raw.toList := by
    rw [hraw, (hw.append hrest b).trim]
  have hcut := Text.cutsOnce_append w rest hw hrest b hb
  rw [← hraw, ← htrim] at hcut
  rw [parse_of_cutsOnce raw w [b] rest hcut, trimmed, htrim, String.ofList_toList]

/-- The parts of a line of two words. -/
theorem parse_two (raw : String) (w v : List Char) (hw : Text.IsWord w)
    (hv : Text.IsWord v) (b : Char) (hb : Text.isBlank b = true)
    (hraw : raw.toList = w ++ b :: v) :
    parse raw =
      { name := String.ofList (Text.lower w)
        args := [String.ofList v]
        line := raw
        remainder := String.ofList v } := by
  rw [parse_append raw w v hw hv.isPhrase b hb hraw, Text.words_word v hv, List.map_cons,
    List.map_nil]

/-- The parts of a line, told by what the line is put together from. -/
structure IsCut (raw : String) (c : Command) : Prop where
  /-- The line is all that was entered but for blanks around it. -/
  between : ∃ front back, (∀ b ∈ front, Text.isBlank b = true) ∧
    (∀ b ∈ back, Text.isBlank b = true) ∧ raw.toList = front ++ (c.line.toList ++ back)
  /-- It has no blanks at its ends. -/
  line_bare : c.line = "" ∨ Text.IsPhrase c.line.toList
  /-- An empty line has no other parts. -/
  empty : c.line = "" → c = { name := "" }
  /-- Any other line is its first word, blanks and the remainder, and the word in
      small letters is the name. -/
  first : c.line ≠ "" → ∃ w gap, Text.CutsOnce c.line.toList w gap c.remainder.toList ∧
    c.name = String.ofList (Text.lower w)
  /-- The arguments are the words that spell the remainder. -/
  spaced : Text.Spaced (c.args.map String.toList) c.remainder.toList

/-- Parsing finds the parts of a line. -/
theorem parse_isCut (raw : String) : IsCut raw (parse raw) := by
  rcases Text.exists_trim raw.toList with ⟨front, back, hfront, hback, hraw⟩
  by_cases hblank : Text.trim raw.toList = []
  · -- Nothing but blanks was entered.
    have hwords : Text.words raw.toList = [] := by
      rw [← Text.words_trim, hblank, Text.words_nil]
    have hline : trimmed raw = "" := by rw [trimmed, hblank]
    rw [hblank] at hraw
    rw [parse_of_words_nil raw hwords, hline]
    exact {
      between := ⟨front, back, hfront, hback, hraw⟩
      line_bare := .inl rfl
      empty := fun _ => rfl
      first := fun h => absurd rfl h
      spaced := .blanks [] (fun b hb => absurd hb List.not_mem_nil) }
  · have hphrase := Text.isPhrase_trim raw.toList hblank
    rcases Text.exists_cutsOnce _ hphrase with ⟨w, gap, rest, hcut⟩
    have hline : (trimmed raw).toList = Text.trim raw.toList := String.toList_ofList
    rw [parse_of_cutsOnce raw w gap rest hcut]
    exact {
      between := ⟨front, back, hfront, hback, by rw [hline]; exact hraw⟩
      line_bare := .inr (by rw [hline]; exact hphrase)
      empty := fun h => absurd (hline.symm.trans (String.toList_eq_nil_iff.mpr h)) hblank
      first := fun _ => ⟨w, gap, by rw [hline, String.toList_ofList]; exact hcut, rfl⟩
      spaced := by
        rw [toList_map_ofList, String.toList_ofList]
        exact Text.spaced_words rest }

theorem IsCut.trim_eq {raw : String} {c : Command} (h : IsCut raw c) :
    Text.trim raw.toList = c.line.toList := by
  rcases h.between with ⟨front, back, hfront, hback, hraw⟩
  rw [hraw]
  exact Text.trim_between front _ back hfront hback
    (h.line_bare.imp_left String.toList_eq_nil_iff.mpr)

theorem IsCut.line_eq {raw : String} {c : Command} (h : IsCut raw c) : c.line = trimmed raw := by
  rw [trimmed, h.trim_eq, String.ofList_toList]

/-- There are no other parts. -/
theorem IsCut.eq_parse {raw : String} {c : Command} (h : IsCut raw c) : c = parse raw := by
  by_cases hempty : c.line = ""
  · have hwords : Text.words raw.toList = [] := by
      rw [← Text.words_trim, h.trim_eq, hempty, String.toList_empty, Text.words_nil]
    rw [parse_of_words_nil raw hwords, ← h.line_eq, hempty]
    exact h.empty hempty
  · rcases h.first hempty with ⟨w, gap, hcut, hname⟩
    have hargs : (Text.words c.remainder.toList).map String.ofList = c.args := by
      rw [(Text.words_eq_iff _ _).mpr h.spaced, List.map_map]
      exact List.map_id'' (fun _ => String.ofList_toList) c.args
    rw [← h.trim_eq] at hcut
    rw [parse_of_cutsOnce raw w gap _ hcut, hargs, ← h.line_eq, ← hname, String.ofList_toList]

/-- The parts of a line fit together, and there is one way only to cut it so. The
    line is what was entered without the blanks around it. Unless it is empty, it
    is its first word, blanks and the remainder, which has no blanks at its ends.
    The words of the remainder are the arguments, so there is a remainder exactly
    if there are arguments, and no argument is empty or has a blank in it. Parsing
    the line again changes nothing. -/
theorem cuts_agree (raw : String) :
    (∀ c, IsCut raw c ↔ c = parse raw) ∧
      ((parse raw).remainder = "" ∨ Text.IsPhrase (parse raw).remainder.toList) ∧
      Text.words (parse raw).remainder.toList = (parse raw).args.map String.toList ∧
      ((parse raw).remainder = "" ↔ (parse raw).args = []) ∧
      (∀ a ∈ (parse raw).args, Text.IsWord a.toList) ∧
      parse (parse raw).line = parse raw := by
  have hcut := parse_isCut raw
  have hwords := (Text.words_eq_iff _ _).mpr hcut.spaced
  have hbare : (parse raw).remainder = "" ∨ Text.IsPhrase (parse raw).remainder.toList := by
    by_cases hempty : (parse raw).line = ""
    · rw [hcut.empty hempty]
      exact .inl rfl
    · rcases hcut.first hempty with ⟨w, gap, honce, _⟩
      exact honce.rest_bare.imp_left String.toList_eq_nil_iff.mp
  refine ⟨fun c => ⟨IsCut.eq_parse, fun h => h ▸ hcut⟩, hbare, hwords, ?_, ?_, ?_⟩
  · constructor
    · intro hnone
      rw [hnone, String.toList_empty, Text.words_nil] at hwords
      exact List.map_eq_nil_iff.mp hwords.symm
    · -- A remainder that is a phrase has a word in it.
      intro hnone
      rw [hnone] at hwords
      exact hbare.resolve_right (fun hphrase => Text.words_ne_nil _ hphrase hwords)
  · intro a ha
    refine Text.isWord_of_mem_words (parse raw).remainder.toList _ ?_
    rw [hwords]
    exact List.mem_map_of_mem ha
  · rw [hcut.line_eq, parse_trimmed]

/-! A no-break space and an information separator are blanks like any other. -/

example :
    parse "\u3000ECHO \x1c hi\u00a0\tthere\u2003" =
      ⟨"echo", ["hi", "there"], "ECHO \x1c hi\u00a0\tthere", "hi\u00a0\tthere"⟩ := by
  decide

end Command

end SimTerm
