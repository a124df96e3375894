import Mathlib.Data.List.TakeWhile
import SimTerm.Text.Blank

/-!
# Words of a Line

How a line whose first word is known is trimmed and cut.

Trimming takes blanks from the ends only, so a text that begins and ends with
another character is trimmed already (`trim_eq_self`), and what trimming leaves
is such a text or nothing (`isPhrase_trim`). A word in front of a blank is the
first of the words, and behind it stands the rest of the line whatever that is
(`headWord_append`, `afterHead_append`, `words_append`).

Words are cut out at blanks and a line is trimmed of blanks, so it does not
matter to the words whether the line was trimmed before (`words_trim`). After
that the first of them is what stands before the first blank
(`words_eq_headWord_cons`).

A text is spelled by words with blanks around and between them in one way only,
and the words are those that cutting finds (`words_eq_iff`). This says what they
are without the cutting, which looks at the single characters and throws away
what is empty.

## Main definitions

* `IsWord`: Some characters without a blank.
* `IsPhrase`: Some characters without a blank at the ends.
* `Spaced`: Words in order, with blanks around them.

## Theorems

* `trim_eq_self`: What is trimmed already.
* `isPhrase_trim`: What trimming leaves.
* `trim_between`: What it leaves of a text between blanks.
* `words_append`: The words of a line behind its first one.
* `words_trim`: The words of a trimmed line.
* `words_eq_headWord_cons`, `headWord_trim`: The first word of a line that begins
  with it, and of any line when it is trimmed.
* `isWord_of_mem_words`, `isPhrase_intercalate`: What the words of a text are, and
  what they are when they are joined.
* `words_eq_iff`: What the words of a text are, told by what spells it.
* `trimmed_two`: A line of two words is trimmed.
-/

namespace SimTerm

namespace Text

/-- Some characters, and none of them blank. -/
structure IsWord (w : List Char) : Prop where
  /-- There are some. -/
  ne_nil : w ≠ []
  /-- None is blank. -/
  solid : ∀ c ∈ w, isBlank c = false

/-- Some characters of which neither the first nor the last one is blank. -/
structure IsPhrase (cs : List Char) : Prop where
  /-- There are some. -/
  ne_nil : cs ≠ []
  /-- The first one is not blank. -/
  first : ∀ c ∈ cs.head?, isBlank c = false
  /-- The last one is not blank. -/
  last : ∀ c ∈ cs.getLast?, isBlank c = false

theorem dropWhile_isBlank (cs : List Char) (h : ∀ c ∈ cs.head?, isBlank c = false) :
    cs.dropWhile isBlank = cs := by
  cases cs with
  | nil => rfl
  | cons c cs =>
      rw [List.dropWhile_cons_of_neg]
      exact Bool.eq_false_iff.mp (h c rfl)

/-- A text that neither begins nor ends with a blank is trimmed already. -/
theorem trim_eq_self (cs : List Char) (hfirst : ∀ c ∈ cs.head?, isBlank c = false)
    (hlast : ∀ c ∈ cs.getLast?, isBlank c = false) : trim cs = cs := by
  rw [trim, trimLeft, dropWhile_isBlank cs hfirst, trimRight, dropWhile_isBlank,
    List.reverse_reverse]
  rw [List.head?_reverse]
  exact hlast

theorem IsPhrase.trim {cs : List Char} (h : IsPhrase cs) : trim cs = cs :=
  trim_eq_self cs h.first h.last

theorem head?_dropWhile_isBlank (cs : List Char) :
    ∀ c ∈ (cs.dropWhile isBlank).head?, isBlank c = false := by
  intro c hc
  have h := List.head?_dropWhile_not isBlank cs
  rw [Option.mem_def.mp hc] at h
  exact h

/-- If anything is left of a text that is trimmed, it is a phrase. -/
theorem isPhrase_trim (cs : List Char) (h : Text.trim cs ≠ []) : IsPhrase (Text.trim cs) where
  ne_nil := h
  first := fun c hc => by
    -- Trimming on the right takes nothing from the front.
    have hprefix : Text.trim cs <+: trimLeft cs := by
      rw [Text.trim, trimRight, ← List.reverse_suffix, List.reverse_reverse]
      exact List.dropWhile_suffix isBlank
    refine head?_dropWhile_isBlank cs c ?_
    rw [List.head?_eq_some_head h, hprefix.head h, ← List.head?_eq_some_head] at hc
    exact hc
  last := fun c hc => by
    rw [Text.trim, trimRight, List.getLast?_reverse] at hc
    exact head?_dropWhile_isBlank _ c hc

theorem trim_trim (cs : List Char) : Text.trim (Text.trim cs) = Text.trim cs := by
  by_cases h : Text.trim cs = []
  · rw [h]
    rfl
  · exact (isPhrase_trim cs h).trim

/-- A text that begins with a phrase does not begin with a blank. -/
theorem IsPhrase.head_append {cs : List Char} (h : IsPhrase cs) (rest : List Char) :
    ∀ c ∈ (cs ++ rest).head?, isBlank c = false := by
  rcases List.exists_cons_of_ne_nil h.ne_nil with ⟨d, ds, rfl⟩
  exact h.first

/-- A text that ends with a phrase does not end with a blank. -/
theorem IsPhrase.getLast_append {cs : List Char} (h : IsPhrase cs) (front : List Char) :
    ∀ c ∈ (front ++ cs).getLast?, isBlank c = false := by
  have hlast : (front ++ cs).getLast? = cs.getLast? := by
    rw [List.getLast?_append, List.getLast?_eq_some_getLast h.ne_nil, Option.some_or]
  rw [hlast]
  exact h.last

/-- What is left between blanks, if it does not begin or end with one. -/
theorem trim_between (front cs back : List Char) (hfront : ∀ b ∈ front, isBlank b = true)
    (hback : ∀ b ∈ back, isBlank b = true) (hcs : cs = [] ∨ IsPhrase cs) :
    Text.trim (front ++ (cs ++ back)) = cs := by
  have hleft : trimLeft (front ++ (cs ++ back)) = trimLeft (cs ++ back) :=
    List.dropWhile_append_of_pos hfront
  rcases hcs with rfl | hcs
  · have hnone : trimLeft back = [] := List.dropWhile_eq_nil_iff.mpr hback
    rw [Text.trim, hleft, List.nil_append, hnone]
    rfl
  · have hkept : trimLeft (cs ++ back) = cs ++ back :=
      dropWhile_isBlank _ (hcs.head_append back)
    have hlast : ∀ c ∈ cs.reverse.head?, isBlank c = false := by
      rw [List.head?_reverse]
      exact hcs.last
    rw [Text.trim, hleft, hkept, trimRight, List.reverse_append,
      List.dropWhile_append_of_pos (fun b hb => hback b (List.mem_reverse.mp hb)),
      dropWhile_isBlank _ hlast, List.reverse_reverse]

/-- Two phrases are one, whatever stands between them. -/
theorem IsPhrase.append {cs ds : List Char} (hcs : IsPhrase cs) (hds : IsPhrase ds)
    (middle : List Char) : IsPhrase (cs ++ (middle ++ ds)) where
  ne_nil := List.append_ne_nil_of_left_ne_nil hcs.ne_nil _
  first := hcs.head_append _
  last := by
    rw [← List.append_assoc]
    exact hds.getLast_append _

/-- Whether some characters are a word can be computed. -/
theorem isWord_of_any (w : List Char) (hne : w ≠ []) (h : w.any isBlank = false) : IsWord w where
  ne_nil := hne
  solid := fun c hc => Bool.eq_false_iff.mpr (List.any_eq_false.mp h c hc)

theorem IsWord.isPhrase {w : List Char} (h : IsWord w) : IsPhrase w where
  ne_nil := h.ne_nil
  first := fun c hc => h.solid c (List.mem_of_mem_head? hc)
  last := fun c hc => h.solid c (List.mem_of_mem_getLast? hc)

theorem IsWord.isEmpty {w : List Char} (h : IsWord w) : w.isEmpty = false :=
  List.isEmpty_eq_false_iff.mpr h.ne_nil

theorem headWord_append (w rest : List Char) (hw : IsWord w) (b : Char) (hb : isBlank b = true) :
    headWord (w ++ b :: rest) = w := by
  rw [headWord, List.takeWhile_append_of_pos (fun c hc => by rw [hw.solid c hc]; rfl),
    List.takeWhile_cons_of_neg (by rw [hb]; exact Bool.false_ne_true), List.append_nil]

theorem afterHead_append (w rest : List Char) (hw : IsWord w) (b : Char)
    (hb : isBlank b = true) : afterHead (w ++ b :: rest) = b :: rest := by
  rw [afterHead, List.dropWhile_append_of_pos (fun c hc => by rw [hw.solid c hc]; rfl),
    List.dropWhile_cons_of_neg (by rw [hb]; exact Bool.false_ne_true)]

/-- A word at the start of a line that goes on with a blank, or not at all, is
    its first word. -/
theorem headWord_append_rest (w rest : List Char) (hw : IsWord w)
    (hrest : ∀ ch ∈ rest.head?, isBlank ch = true) :
    headWord (w ++ rest) = w ∧ afterHead (w ++ rest) = rest := by
  cases rest with
  | nil =>
      have hall : ∀ ch ∈ w, (!isBlank ch) = true := fun ch hch => by
        rw [hw.solid ch hch]
        rfl
      rw [List.append_nil, headWord, afterHead, List.takeWhile_eq_self_iff.mpr hall,
        List.dropWhile_eq_nil_iff.mpr hall]
      exact ⟨rfl, rfl⟩
  | cons b rest =>
      have hb : isBlank b = true := hrest b rfl
      exact ⟨headWord_append w rest hw b hb, afterHead_append w rest hw b hb⟩

@[simp] theorem words_nil : words [] = [] := by
  rw [words, List.splitOnP_nil, List.filter_cons_of_neg (by decide), List.filter_nil]

theorem words_word (w : List Char) (hw : IsWord w) : words w = [w] := by
  simp only [words, List.splitOnP_eq_singleton hw.solid, List.filter_cons, List.filter_nil,
    hw.isEmpty, Bool.not_false, if_true]

/-- A blank parts the words before it from the words behind it. -/
theorem words_append_blank (cs ds : List Char) (b : Char) (hb : isBlank b = true) :
    words (cs ++ b :: ds) = words cs ++ words ds := by
  rw [words, List.splitOnP_append_cons cs ds hb, List.filter_append, words, words]

/-- A word in front of a blank is the first of the words. -/
theorem words_append (w rest : List Char) (hw : IsWord w) (b : Char) (hb : isBlank b = true) :
    words (w ++ b :: rest) = w :: words rest := by
  rw [words_append_blank w rest b hb, words_word w hw, List.singleton_append]

theorem words_blank_cons (b : Char) (cs : List Char) (hb : isBlank b = true) :
    words (b :: cs) = words cs := words_append_blank [] cs b hb

theorem words_blanks_append (bs cs : List Char) (h : ∀ b ∈ bs, isBlank b = true) :
    words (bs ++ cs) = words cs := by
  induction bs with
  | nil => rfl
  | cons b bs ih =>
      rcases List.forall_mem_cons.mp h with ⟨hb, hbs⟩
      rw [List.cons_append, words_blank_cons b _ hb, ih hbs]

/-- A word in front of a blank or of nothing is the first of the words. -/
theorem words_append_rest (w rest : List Char) (hw : IsWord w)
    (hrest : ∀ c ∈ rest.head?, isBlank c = true) : words (w ++ rest) = w :: words rest := by
  cases rest with
  | nil => rw [List.append_nil, words_word w hw, words_nil]
  | cons b rest =>
      have hb : isBlank b = true := hrest b rfl
      rw [words_append w rest hw b hb, words_blank_cons b rest hb]

theorem words_append_blanks (cs bs : List Char) (h : ∀ b ∈ bs, isBlank b = true) :
    words (cs ++ bs) = words cs := by
  cases bs with
  | nil => rw [List.append_nil]
  | cons b bs =>
      rcases List.forall_mem_cons.mp h with ⟨hb, hbs⟩
      have hnone : words bs = [] := by
        rw [← List.append_nil bs]
        exact words_blanks_append bs [] hbs
      rw [words_append_blank cs bs b hb, hnone, List.append_nil]

/-- What trimming takes off a text are blanks at its ends. -/
theorem exists_trim (cs : List Char) :
    ∃ front back, (∀ b ∈ front, isBlank b = true) ∧ (∀ b ∈ back, isBlank b = true) ∧
      cs = front ++ (Text.trim cs ++ back) := by
  have hback : Text.trim cs ++ ((trimLeft cs).reverse.takeWhile isBlank).reverse = trimLeft cs := by
    rw [Text.trim, trimRight, ← List.reverse_append, List.takeWhile_append_dropWhile,
      List.reverse_reverse]
  refine ⟨cs.takeWhile isBlank, ((trimLeft cs).reverse.takeWhile isBlank).reverse,
    fun b hb => List.mem_takeWhile_imp hb, fun b hb => ?_, ?_⟩
  · exact List.mem_takeWhile_imp (List.mem_reverse.mp hb)
  · rw [hback, trimLeft, List.takeWhile_append_dropWhile]

/-- The words of a trimmed line are those of the line. -/
theorem words_trim (cs : List Char) : words (Text.trim cs) = words cs := by
  rcases exists_trim cs with ⟨front, back, hfront, hback, hcs⟩
  have hwords := congrArg words hcs
  rw [words_blanks_append front _ hfront, words_append_blanks _ back hback] at hwords
  exact hwords.symm

@[simp] theorem headWord_append_afterHead (cs : List Char) : headWord cs ++ afterHead cs = cs :=
  List.takeWhile_append_dropWhile

/-- What stands before the first blank of a line that does not begin with one. -/
theorem isWord_headWord (cs : List Char) (hne : cs ≠ [])
    (hfirst : ∀ c ∈ cs.head?, isBlank c = false) : IsWord (headWord cs) := by
  refine ⟨?_, fun c hc => by simpa using List.mem_takeWhile_imp hc⟩
  rcases List.exists_cons_of_ne_nil hne with ⟨c, rest, rfl⟩
  rw [headWord, List.takeWhile_cons_of_pos (by rw [hfirst c rfl]; rfl)]
  exact List.cons_ne_nil _ _

/-- Behind the first word there is a blank or nothing. -/
theorem head?_afterHead (cs : List Char) : ∀ c ∈ (afterHead cs).head?, isBlank c = true := by
  intro c hc
  have hnot := List.head?_dropWhile_not (fun c => !isBlank c) cs
  rw [show (cs.dropWhile (fun c => !isBlank c)).head? = some c from hc] at hnot
  simpa using hnot

/-- The first word of a line that begins with it is what stands before the first
    blank. -/
theorem words_eq_headWord_cons (cs : List Char) (hne : cs ≠ [])
    (hfirst : ∀ c ∈ cs.head?, isBlank c = false) :
    words cs = headWord cs :: words (afterHead cs) := by
  have hwords := words_append_rest (headWord cs) (afterHead cs) (isWord_headWord cs hne hfirst)
    (head?_afterHead cs)
  rw [headWord_append_afterHead] at hwords
  exact hwords

/-- The parts of a text that is cut at blanks have its other characters. -/
theorem mem_of_mem_splitOnP (cs w : List Char) (h : w ∈ cs.splitOnP isBlank) :
    ∀ c ∈ w, c ∈ cs ∧ isBlank c = false := by
  induction cs generalizing w with
  | nil =>
      rw [List.splitOnP_nil, List.mem_singleton] at h
      rw [h]
      exact fun c hc => absurd hc List.not_mem_nil
  | cons d cs ih =>
      have hlonger : ∀ v ∈ cs.splitOnP isBlank, ∀ c ∈ v, c ∈ d :: cs ∧ isBlank c = false :=
        fun v hv c hc => ⟨List.mem_cons_of_mem d (ih v hv c hc).1, (ih v hv c hc).2⟩
      rw [List.splitOnP_cons_eq_if_modifyHead] at h
      by_cases hd : isBlank d = true
      · rw [if_pos hd, List.mem_cons] at h
        rcases h with rfl | h
        · exact fun c hc => absurd hc List.not_mem_nil
        · exact hlonger w h
      · rw [if_neg hd] at h
        rcases List.exists_cons_of_ne_nil (List.splitOnP_ne_nil isBlank cs) with ⟨first, rest, hcs⟩
        rw [hcs] at h hlonger
        rw [List.modifyHead_cons, List.mem_cons] at h
        rcases h with rfl | h
        · -- The first part goes on with what the cut had before.
          refine List.forall_mem_cons.mpr ⟨⟨List.mem_cons_self, Bool.eq_false_iff.mpr hd⟩, ?_⟩
          exact hlonger first List.mem_cons_self
        · exact hlonger w (List.mem_cons_of_mem first h)

theorem isWord_of_mem_words (cs w : List Char) (h : w ∈ words cs) : IsWord w := by
  rcases List.mem_filter.mp h with ⟨hmem, hne⟩
  exact ⟨by simpa using hne, fun c hc => (mem_of_mem_splitOnP cs w hmem c hc).2⟩

theorem mem_of_mem_words (cs w : List Char) (h : w ∈ words cs) (c : Char) (hc : c ∈ w) : c ∈ cs :=
  (mem_of_mem_splitOnP cs w (List.mem_filter.mp h).1 c hc).1

/-- A trimmed line is cut behind the first word of the line. -/
theorem headWord_trim (cs w : List Char) (h : (words cs).head? = some w) :
    headWord (Text.trim cs) = w ∧ afterHead (Text.trim cs) = (Text.trim cs).drop w.length := by
  have hne : Text.trim cs ≠ [] := fun hnil => by
    rw [← words_trim, hnil, words_nil] at h
    exact absurd h (by simp only [List.head?_nil, reduceCtorEq, not_false_eq_true])
  rw [← words_trim, words_eq_headWord_cons _ hne (isPhrase_trim cs hne).first, List.head?_cons,
    Option.some.injEq] at h
  have hparts : w ++ afterHead (Text.trim cs) = Text.trim cs := by
    rw [← h]
    exact headWord_append_afterHead _
  refine ⟨h, ?_⟩
  have hdrop : (w ++ afterHead (Text.trim cs)).drop w.length = afterHead (Text.trim cs) :=
    List.drop_left
  rw [hparts] at hdrop
  exact hdrop.symm

/-- Words in order, with blanks before, between and behind them. Two words have a
    blank between them. -/
inductive Spaced : List (List Char) → List Char → Prop
  | blanks (bs : List Char) (hbs : ∀ b ∈ bs, isBlank b = true) : Spaced [] bs
  | word (bs w rest : List Char) (ws : List (List Char)) (hbs : ∀ b ∈ bs, isBlank b = true)
      (hw : IsWord w) (hend : ∀ c ∈ rest.head?, isBlank c = true) (hrest : Spaced ws rest) :
      Spaced (w :: ws) (bs ++ (w ++ rest))

theorem exists_blanks_append (cs : List Char) :
    ∃ bs body, (∀ b ∈ bs, isBlank b = true) ∧ (∀ c ∈ body.head?, isBlank c = false) ∧
      cs = bs ++ body :=
  ⟨cs.takeWhile isBlank, cs.dropWhile isBlank, fun _ hb => List.mem_takeWhile_imp hb,
    head?_dropWhile_isBlank cs, List.takeWhile_append_dropWhile.symm⟩

theorem length_afterHead_lt (cs : List Char) (hne : cs ≠ [])
    (hfirst : ∀ c ∈ cs.head?, isBlank c = false) : (afterHead cs).length < cs.length := by
  have hpos : 0 < (headWord cs).length :=
    List.length_pos_iff.mpr (isWord_headWord cs hne hfirst).ne_nil
  have hparts := congrArg List.length (headWord_append_afterHead cs)
  rw [List.length_append] at hparts
  omega

theorem spaced_words (cs : List Char) : Spaced (words cs) cs := by
  -- By induction on the length, since a whole word goes with every step.
  induction hlen : cs.length using Nat.strong_induction_on generalizing cs with
  | _ n ih =>
      rcases exists_blanks_append cs with ⟨bs, body, hbs, hfirst, rfl⟩
      rw [words_blanks_append bs body hbs]
      by_cases hbody : body = []
      · rw [hbody, words_nil, List.append_nil]
        exact .blanks bs hbs
      · have hshorter : (afterHead body).length < n := by
          have hlt := length_afterHead_lt body hbody hfirst
          rw [← hlen, List.length_append]
          omega
        have hrest : Spaced (words (afterHead body)) (afterHead body) := ih _ hshorter _ rfl
        have hspaced := Spaced.word bs (headWord body) _ _ hbs (isWord_headWord body hbody hfirst)
          (head?_afterHead body) hrest
        rw [headWord_append_afterHead] at hspaced
        rw [words_eq_headWord_cons body hbody hfirst]
        exact hspaced

/-- A text is spelled by the words that cutting it at blanks gives, and by no
    others. -/
theorem words_eq_iff (cs : List Char) (ws : List (List Char)) :
    words cs = ws ↔ Spaced ws cs := by
  constructor
  · rintro rfl
    exact spaced_words cs
  · intro h
    induction h with
    | blanks bs hbs => rw [← List.append_nil bs, words_blanks_append bs [] hbs, words_nil]
    | word bs w rest ws hbs hw hend _ ih =>
        rw [words_blanks_append bs _ hbs, words_append_rest w rest hw hend, ih]

/-- A phrase has a first word. -/
theorem words_ne_nil (cs : List Char) (h : IsPhrase cs) : words cs ≠ [] := by
  rw [words_eq_headWord_cons cs h.ne_nil h.first]
  exact List.cons_ne_nil _ _

/-- A word and a phrase behind a blank are a phrase. -/
theorem IsWord.append {w rest : List Char} (hw : IsWord w) (hrest : IsPhrase rest) (b : Char) :
    IsPhrase (w ++ b :: rest) :=
  hw.isPhrase.append hrest [b]

/-- Words with single characters between them are a phrase. -/
theorem isPhrase_intercalate (b : Char) (ws : List (List Char)) (hne : ws ≠ [])
    (h : ∀ w ∈ ws, IsWord w) : IsPhrase ([b].intercalate ws) := by
  induction ws with
  | nil => exact absurd rfl hne
  | cons w ws ih =>
      rcases List.forall_mem_cons.mp h with ⟨hw, hws⟩
      cases ws with
      | nil =>
          rw [List.intercalate_singleton]
          exact hw.isPhrase
      | cons v vs =>
          rw [List.intercalate_cons_cons, List.append_assoc, List.singleton_append]
          exact hw.append (ih (List.cons_ne_nil v vs) hws) b

/-- A character of joined words is the one between them or stands in a word. -/
theorem mem_of_mem_intercalate (b c : Char) (ws : List (List Char))
    (hc : c ∈ [b].intercalate ws) : c = b ∨ ∃ w ∈ ws, c ∈ w := by
  induction ws with
  | nil => exact absurd hc List.not_mem_nil
  | cons w ws ih =>
      cases ws with
      | nil =>
          rw [List.intercalate_singleton] at hc
          exact .inr ⟨w, List.mem_cons_self, hc⟩
      | cons v vs =>
          rw [List.intercalate_cons_cons, List.append_assoc, List.singleton_append,
            List.mem_append, List.mem_cons] at hc
          rcases hc with hw | hb | hrest
          · exact .inr ⟨w, List.mem_cons_self, hw⟩
          · exact .inl hb
          · rcases ih hrest with hb | ⟨w', hw', hmem⟩
            · exact .inl hb
            · exact .inr ⟨w', List.mem_cons_of_mem w hw', hmem⟩

end Text

theorem toList_map_ofList (ws : List (List Char)) :
    (ws.map String.ofList).map String.toList = ws := by
  rw [List.map_map]
  exact List.map_id'' (fun _ => String.toList_ofList) ws

/-- Joining strings joins their characters. -/
theorem toList_joined (ws : List (List Char)) :
    (String.intercalate " " (ws.map String.ofList)).toList = [' '].intercalate ws := by
  rw [String.toList_intercalate, toList_map_ofList]
  rfl

theorem trimmed_trimmed (s : String) : trimmed (trimmed s) = trimmed s := by
  rw [trimmed, trimmed, String.toList_ofList, Text.trim_trim]

/-- A line of two words is trimmed already. -/
theorem trimmed_two (raw : String) (w v : List Char) (hw : Text.IsWord w) (hv : Text.IsWord v)
    (b : Char) (hraw : raw.toList = w ++ b :: v) : trimmed raw = raw := by
  rw [trimmed, hraw, (hw.append hv.isPhrase b).trim, ← hraw, String.ofList_toList]

end SimTerm
