import SimTerm.Proofs.Shell.RcLine
import SimTerm.Proofs.Text.Identifier

/-!
# Assignments in a Shell Configuration

What the scanner makes of a line that sets a variable to a text.

The line begins with the name, or with the word `export` and the name, and then
comes an equals sign. Before the scanner gets to assignments it tries everything
else that a line can be. Nearly all of that is looked for at the start of the
line, and there an identifier stands in front of an equals sign or a blank. Such
an opening is no keyword with a gap behind it, and no name in front of a
parenthesis, whatever follows.

The keyword `function` is looked for everywhere, and that includes the text
behind the equals sign. A text in which the keyword announces a name is taken
for the definition of a function, and the assignment is lost. For all other
texts the variable is set (`ofText_assignment`).

## Main definitions

* `Announces`: The keyword stands in a text, with a name behind it.
* `Opening`: The first word of an assignment and the character behind it.
* `assignment`: A line that sets a variable to a text.

## Theorems

* `announces_iff`: The scanner finds a function where one is announced.
* `Opening.after?_eq_none`: An assignment does not begin with a keyword.
* `Opening.announcedFunction?_eq`: A function is announced in it behind the
  opening.
* `ofText_assignment`: What an assignment is taken for.
-/

namespace SimTerm

namespace RcLine

open Text

/-- The keyword of functions stands in a text outside of words, and behind it a
    gap and a character that can be in a name. -/
def Announces (text : List Char) : Prop :=
  ∃ front gap c rest, text = front ++ ("function".toList ++ (gap ++ c :: rest)) ∧
    (∀ d ∈ front.getLast?, isWordChar d = false) ∧ IsGap gap ∧ isFunctionNameChar c = true

/-- The first word of an assignment and the character behind it: the name and
    the equals sign, or another keyword and a blank. -/
structure Opening (word : List Char) (c : Char) : Prop where
  /-- The word is an identifier. -/
  isIdentifier : isIdentifier word = true
  /-- What stands behind it, and which keyword it is if that is no equals sign. -/
  sign : c = '=' ∨ (c = ' ' ∧ word = "export".toList)

/-- A line that sets a variable to a text, with the keyword in front or without. -/
def assignment (exported : Bool) (name text : List Char) : List Char :=
  if exported then "export".toList ++ ' ' :: (name ++ '=' :: text) else name ++ '=' :: text

/-! ### Functions that are announced -/

theorem functionName?_append (gap : List Char) (c : Char) (rest : List Char) (hgap : IsGap gap)
    (hc : isFunctionNameChar c = true) :
    functionName? ("function".toList ++ (gap ++ c :: rest)) =
      some (c :: rest.takeWhile isFunctionNameChar) := by
  have hsolid : isBlank c = false := by
    rw [isFunctionNameChar] at hc
    simp only [Bool.and_eq_true, Bool.not_eq_true'] at hc
    exact hc.1.1.1.1
  have hafter := afterBlanks?_append gap (c :: rest) hgap
    fun d hd => Option.mem_some.mp hd ▸ hsolid
  have hrun : span1? isFunctionNameChar (c :: rest) =
      some (c :: rest.takeWhile isFunctionNameChar, rest.dropWhile isFunctionNameChar) := by
    rw [span1?, List.span_eq_takeWhile_dropWhile, List.takeWhile_cons_of_pos hc,
      List.dropWhile_cons_of_pos hc]
  rw [functionName?, (after?_eq_some_iff _ _ _).mpr rfl, Option.bind_some, hafter]
  dsimp only
  rw [hrun, Option.map_some]

/-- A name behind the keyword is found, or another one in front of it. -/
theorem announcedFunction?_append (inWord : Bool) (front cs name : List Char)
    (hname : functionName? cs = some name) (hstart : front = [] → inWord = false)
    (hfront : ∀ c ∈ front.getLast?, isWordChar c = false) :
    ∃ found, announcedFunction? inWord (front ++ cs) = some found := by
  induction front generalizing inWord with
  | nil =>
      cases cs with
      | nil => exact absurd hname.symm (Option.some_ne_none name)
      | cons c cs =>
          refine ⟨name, ?_⟩
          rw [List.nil_append, announcedFunction?, hstart rfl, if_neg Bool.false_ne_true, hname]
  | cons c front ih =>
      rw [List.cons_append, announcedFunction?]
      split
      case h_1 found _ => exact ⟨found, rfl⟩
      case h_2 =>
        refine ih (isWordChar c) (fun hnil => ?_) fun d hd => ?_
        · exact hfront c (by rw [hnil]; rfl)
        · cases front with
          | nil => exact absurd hd (Option.not_mem_none d)
          | cons e front => exact hfront d (by rw [List.getLast?_cons_cons]; exact hd)

/-- The scanner finds a function in a text exactly if one is announced there. -/
theorem announces_iff (text : List Char) :
    Announces text ↔ ∃ name, announcedFunction? false text = some name := by
  constructor
  · rintro ⟨front, gap, c, rest, rfl, hfront, hgap, hc⟩
    exact announcedFunction?_append false front _ _ (functionName?_append gap c rest hgap hc)
      (fun _ => rfl) hfront
  · rintro ⟨name, hname⟩
    rcases announcedFunction?_eq_some false text name hname with ⟨front, cs, hfound, rfl, _, hfront⟩
    rcases functionName?_eq_some cs name hfound with ⟨gap, rest, hgap, hne, hall, rfl⟩
    rcases List.exists_cons_of_ne_nil hne with ⟨c, others, rfl⟩
    exact ⟨front, gap, c, others ++ rest, rfl, hfront, hgap, hall c List.mem_cons_self⟩

instance (text : List Char) : Decidable (Announces text) :=
  decidable_of_iff ((announcedFunction? false text).isSome = true)
    (Option.isSome_iff_exists.trans (announces_iff text).symm)

/-! ### The opening of an assignment -/

/-- What a text with a known start begins with is in that start, or holds the
    character behind it. -/
theorem prefix_or_mem (found word rest : List Char) (c : Char) (h : found <+: word ++ c :: rest) :
    found <+: word ∨ c ∈ found := by
  have hstart : word ++ [c] <+: word ++ c :: rest := ⟨rest, by rw [List.append_assoc]; rfl⟩
  rcases List.prefix_or_prefix_of_prefix h hstart with hfound | hword
  · rcases List.prefix_concat_iff.mp hfound with rfl | hfound
    · exact .inr (List.mem_append_right _ (List.mem_singleton.mpr rfl))
    · exact .inl hfound
  · exact .inr (hword.subset (List.mem_append_right _ (List.mem_singleton.mpr rfl)))

/-- A keyword with a gap behind it is not found where another word stands, or
    where no gap does. -/
theorem afterKeyword_eq_none (keyword word rest : List Char) (c : Char)
    (hkeyword : keyword.all isIdentifierTail = true)
    (hword : ∀ d ∈ word, isIdentifierTail d = true) (hc : isIdentifierTail c = false)
    (hother : isBlank c = true → keyword ≠ word) :
    (after? keyword (word ++ c :: rest)).bind afterBlanks? = none := by
  by_contra hfound
  rcases Option.ne_none_iff_exists'.mp hfound with ⟨behind, hbehind⟩
  rcases Option.bind_eq_some_iff.mp hbehind with ⟨after, hline, hafter⟩
  rw [after?_eq_some_iff] at hline
  rcases afterBlanks?_eq_some after behind hafter with ⟨gap, hgap, rfl⟩
  rcases List.exists_cons_of_ne_nil hgap.ne_nil with ⟨b, blanks, rfl⟩
  have hb : isBlank b = true := hgap.blank b List.mem_cons_self
  -- Both are the run of identifier characters that the line begins with.
  have hrun := span_append isIdentifierTail word (c :: rest) hword
    fun d hd => Option.mem_some.mp hd ▸ hc
  have hsame := span_append isIdentifierTail keyword (b :: blanks ++ behind)
    (List.all_eq_true.mp hkeyword)
    fun d hd => Option.mem_some.mp hd ▸ isIdentifierTail_of_isBlank b hb
  rw [hline, hsame, Prod.mk.injEq, List.cons_append, List.cons.injEq] at hrun
  exact hother (hrun.2.1 ▸ hb) hrun.1

/-- A keyword is not found, in whatever case, if one of its letters is none of
    the word that stands there, and none of them is the character behind. -/
theorem afterAnyCase?_eq_none (keyword word rest : List Char) (letter c : Char)
    (hletter : letter ∈ keyword) (hword : ∀ d ∈ word, isLetterOf letter d = false)
    (hc : ∀ w ∈ keyword, isLetterOf w c = false) :
    afterAnyCase? keyword (word ++ c :: rest) = none := by
  induction keyword generalizing word with
  | nil => exact absurd hletter List.not_mem_nil
  | cons w keyword ih =>
      rcases List.forall_mem_cons.mp hc with ⟨hfirst, hothers⟩
      cases word with
      | nil => rw [List.nil_append, afterAnyCase?, hfirst, if_neg Bool.false_ne_true]
      | cons d word =>
          rcases List.forall_mem_cons.mp hword with ⟨hd, hbehind⟩
          rw [List.cons_append, afterAnyCase?]
          by_cases hw : isLetterOf w d = true
          · -- The letter that is none of the word stands further on.
            rw [if_pos hw]
            refine ih word ((List.mem_cons.mp hletter).resolve_left ?_) hbehind hothers
            rintro rfl
            exact absurd hw (Bool.eq_false_iff.mp hd)
          · rw [if_neg hw]

/-- Where an identifier stands in front of such a character, no function is
    announced up to there. -/
theorem announcedFunction?_skip (inWord : Bool) (word rest : List Char) (c : Char)
    (hword : ∀ d ∈ word, isIdentifierTail d = true) (hc : isIdentifierTail c = false)
    (hend : isWordChar c = false)
    (hshort : isBlank c = true → word.length < "function".toList.length) :
    announcedFunction? inWord (word ++ c :: rest) = announcedFunction? false rest := by
  -- The keyword would be the whole word, and a gap would follow.
  have hnone : ∀ w : List Char, (∀ d ∈ w, isIdentifierTail d = true) →
      (isBlank c = true → w.length < "function".toList.length) →
      functionName? (w ++ c :: rest) = none := by
    intro w hw hlen
    have hkeyword := afterKeyword_eq_none "function".toList w rest c (by decide) hw hc
      fun hblank heq => absurd (hlen hblank) (heq ▸ Nat.lt_irrefl _)
    rw [functionName?, hkeyword]
  induction word generalizing inWord with
  | nil =>
      have hfirst := hnone [] hword hshort
      rw [List.nil_append] at hfirst ⊢
      rw [announcedFunction?, hfirst, ite_self, hend]
  | cons d word ih =>
      have hfirst := hnone (d :: word) hword hshort
      rw [List.cons_append] at hfirst ⊢
      rw [announcedFunction?, hfirst, ite_self]
      exact ih _ (List.forall_mem_cons.mp hword).2 fun hblank =>
        Nat.lt_of_succ_lt (hshort hblank)

variable {word : List Char} {c : Char} (h : Opening word c)

include h

namespace Opening

theorem tail : ∀ d ∈ word, isIdentifierTail d = true := by
  rcases (isIdentifier_iff word).mp h.isIdentifier with ⟨_, _, _, _, htail⟩
  exact htail

/-- What can be said of the character behind the word, whichever it is. -/
theorem sign_cases (P : Char → Prop) (hequals : P '=') (hblank : P ' ') : P c := by
  rcases h.sign with rfl | ⟨rfl, _⟩
  · exact hequals
  · exact hblank

theorem isIdentifierTail_sign : isIdentifierTail c = false :=
  h.sign_cases (fun c => isIdentifierTail c = false) (by decide) (by decide)

/-- The line does not begin with a keyword and a gap. -/
theorem after?_eq_none (keyword rest : List Char) (hkeyword : keyword.all isIdentifierTail = true)
    (hother : keyword ≠ "export".toList) :
    (after? keyword (word ++ c :: rest)).bind afterBlanks? = none := by
  refine afterKeyword_eq_none keyword word rest c hkeyword h.tail h.isIdentifierTail_sign ?_
  rcases h.sign with rfl | ⟨_, rfl⟩
  · exact fun hblank => absurd hblank (by decide)
  · exact fun _ => hother

/-- It does not begin with the keyword that has a dash, in whatever case. -/
theorem setAlias?_eq_none (rest : List Char) : setAlias? (word ++ c :: rest) = none := by
  have hdash : ∀ d ∈ word, isLetterOf '-' d = false := by
    intro d hd
    rw [isLetterOf, beq_eq_false_iff_ne.mpr (toLower_ne_dash d (h.tail d hd))]
    rfl
  have hnone : "set-alias".toList.any (fun w => isLetterOf w c) = false :=
    h.sign_cases (fun c => "set-alias".toList.any (fun w => isLetterOf w c) = false) (by decide)
      (by decide)
  have hsign : ∀ w ∈ "set-alias".toList, isLetterOf w c = false :=
    fun w hw => Bool.eq_false_iff.mpr (List.any_eq_false.mp hnone w hw)
  rw [setAlias?, RcLine.afterAnyCase?_eq_none _ word rest '-' c (by decide) hdash hsign,
    Option.bind_none, Option.bind_none]

theorem aliasOf?_eq_none (rest : List Char) : aliasOf? (word ++ c :: rest) = none := by
  have hkeyword := h.after?_eq_none "alias".toList rest (by decide) (by decide)
  have hassigned : assignedAlias? (word ++ c :: rest) = none := by rw [assignedAlias?, hkeyword]
  have hspaced : spacedAlias? (word ++ c :: rest) = none := by
    rw [spacedAlias?, hkeyword, Option.bind_none]
  rw [aliasOf?, hassigned, hspaced, h.setAlias?_eq_none, Option.none_or, Option.none_or]

/-- In lower case the line begins with the word in lower case, and with the same
    character behind it. -/
theorem lower_eq (rest : List Char) :
    lower (word ++ c :: rest) =
      word.map Char.toLower ++ c :: lowerAfter (word ++ [c]).reverse rest := by
  have hascii : ∀ d ∈ word ++ [c], d.toNat < 128 := by
    rw [List.forall_mem_append, List.forall_mem_singleton]
    refine ⟨fun d hd => ?_, h.sign_cases (fun c => c.toNat < 128) (by decide) (by decide)⟩
    have hrange := toNat_of_isIdentifierTail d (h.tail d hd)
    omega
  have hsmall : c.toLower = c := h.sign_cases (fun c => c.toLower = c) (by decide) (by decide)
  rw [← List.singleton_append, ← List.append_assoc, lower_append _ rest hascii, List.map_append,
    List.map_singleton, hsmall, List.append_assoc, List.singleton_append]

/-- It is not taken for an attempt at an alias. -/
theorem looksLikeAlias_eq_false (rest : List Char) :
    looksLikeAlias (word ++ c :: rest) = false := by
  rw [looksLikeAlias, Bool.or_eq_false_iff]
  constructor
  · rw [← Bool.not_eq_true, List.isPrefixOf_iff_prefix]
    rintro ⟨behind, hline⟩
    -- With the keyword, the gap behind it would be found as well.
    have hkeyword := h.after?_eq_none "alias".toList rest (by decide) (by decide)
    have hfound : after? "alias".toList (word ++ c :: rest) = some (' ' :: behind) :=
      (after?_eq_some_iff _ _ _).mpr hline.symm
    rw [hfound, Option.bind_some, afterBlanks?, if_pos (by decide)] at hkeyword
    exact absurd hkeyword (Option.some_ne_none _)
  · rw [← Bool.not_eq_true, List.isPrefixOf_iff_prefix]
    intro hline
    have hprefix : "set-alias".toList <+: lower (word ++ c :: rest) :=
      List.IsPrefix.trans (by decide) hline
    rw [h.lower_eq] at hprefix
    rcases prefix_or_mem _ _ _ c hprefix with hin | hmem
    · have hdash : '-' ∈ word.map Char.toLower := hin.subset (by decide)
      rcases List.mem_map.mp hdash with ⟨d, hd, hsame⟩
      exact toLower_ne_dash d (h.tail d hd) hsame
    · exact h.sign_cases (fun c => c ∉ "set-alias".toList) (by decide) (by decide) hmem

/-- A function is announced in the line where one is announced behind the
    opening. -/
theorem announcedFunction?_eq (rest : List Char) :
    announcedFunction? false (word ++ c :: rest) = announcedFunction? false rest := by
  have hend : isWordChar c = false :=
    h.sign_cases (fun c => isWordChar c = false) (by decide) (by decide)
  refine announcedFunction?_skip false word rest c h.tail h.isIdentifierTail_sign hend ?_
  rcases h.sign with rfl | ⟨_, rfl⟩
  · exact fun hblank => absurd hblank (by decide)
  · exact fun _ => by decide

/-- No name stands in front of a parenthesis, unless one opens behind the
    character. -/
theorem calledFunction?_eq_none (rest : List Char) (hrest : (trimLeft (c :: rest)).head? ≠ some '(') :
    calledFunction? (word ++ c :: rest) = none := by
  rcases (isIdentifier_iff word).mp h.isIdentifier with ⟨d, ds, rfl, _, htail⟩
  have hname : ∀ e ∈ ds, isCallNameChar e = true := by
    intro e he
    have htail := htail e (List.mem_cons_of_mem _ he)
    rw [isIdentifierTail] at htail
    simp only [isCallNameChar, isWordChar, htail, Bool.true_or]
  have hsign : isCallNameChar c = false :=
    h.sign_cases (fun c => isCallNameChar c = false) (by decide) (by decide)
  rw [List.cons_append, calledFunction?, span_append _ ds (c :: rest) hname
    fun e he => Option.mem_some.mp he ▸ hsign]
  dsimp only
  rw [if_neg (fun hparen => hrest (beq_iff_eq.mp hparen)), ite_self]

theorem envVariable?_eq_none (rest : List Char) : envVariable? (word ++ c :: rest) = none := by
  rcases (isIdentifier_iff word).mp h.isIdentifier with ⟨d, ds, rfl, hhead, _⟩
  have hkeyword : after? "$env:".toList (d :: ds ++ c :: rest) = none := by
    rw [Option.eq_none_iff_forall_ne_some]
    intro behind hline
    have hdollar : d = '$' := (List.cons.inj ((after?_eq_some_iff _ _ _).mp hline)).1
    rw [hdollar] at hhead
    exact absurd hhead (by decide)
  rw [envVariable?, hkeyword, Option.bind_none]

theorem fishVariable?_eq_none (rest : List Char) : fishVariable? (word ++ c :: rest) = none := by
  rw [fishVariable?, h.after?_eq_none "set".toList rest (by decide) (by decide)]

/-- The line is tried as an assignment if no function is announced behind the
    opening. -/
theorem ofTrimmed_eq (rest : List Char) (hrest : (trimLeft (c :: rest)).head? ≠ some '(') :
    ofTrimmed (word ++ c :: rest) =
      match announcedFunction? false rest with
      | some name => .functionLine name (word ++ c :: rest)
      | none =>
        match assignedVariable? (word ++ c :: rest) with
        | some (name, value) => .variableLine name (unquote value)
        | none => .other := by
  have hstart : ((word ++ c :: rest).isEmpty || (word ++ c :: rest).head? == some '#') = false := by
    rcases (isIdentifier_iff word).mp h.isIdentifier with ⟨d, ds, rfl, hhead, _⟩
    have hhash : d ≠ '#' := by
      rintro rfl
      exact absurd hhead (by decide)
    rw [Bool.or_eq_false_iff, beq_eq_false_iff_ne]
    exact ⟨rfl, fun heq => hhash (Option.some.inj heq)⟩
  have hassigned : assigned? (word ++ c :: rest) =
      (assignedVariable? (word ++ c :: rest)).map (fun v => (v.1, unquote v.2)) := by
    rw [assigned?, h.envVariable?_eq_none, h.fishVariable?_eq_none, Option.none_or, Option.none_or]
  rw [ofTrimmed, hstart, if_neg Bool.false_ne_true, h.aliasOf?_eq_none]
  dsimp only
  rw [h.looksLikeAlias_eq_false, if_neg Bool.false_ne_true, function?, h.announcedFunction?_eq,
    h.calledFunction?_eq_none rest hrest, Option.or_none, hassigned]
  cases announcedFunction? false rest with
  | some name => rfl
  | none => cases assignedVariable? (word ++ c :: rest) <;> rfl

end Opening

omit h

/-! ### Assignments -/

/-- A line is cut at its first equals sign. -/
theorem assignedVariable?_append (left text : List Char) (hsign : '=' ∉ left) :
    assignedVariable? (left ++ '=' :: text) =
      if isIdentifier (dropExport (trim left)) then some (dropExport (trim left), text)
      else none := by
  have hspan := span_append (fun d => d != '=') left ('=' :: text)
    (fun d hd => bne_iff_ne.mpr fun heq => hsign (heq ▸ hd))
    fun d hd => Option.mem_some.mp hd ▸ rfl
  rw [assignedVariable?, hspan]
  rfl

/-- The name and the text of an assignment are found. -/
theorem assignedVariable?_assignment (exported : Bool) (name text : List Char)
    (hname : isIdentifier name = true) :
    assignedVariable? (assignment exported name text) = some (name, text) := by
  have hword := isWord_of_isIdentifier name hname
  have hsign : '=' ∉ name := by
    rcases (isIdentifier_iff name).mp hname with ⟨_, _, _, _, htail⟩
    exact fun hmem => absurd (htail '=' hmem) (by decide)
  cases exported with
  | false =>
      -- The name is a word, and so the keyword and a blank are not in it.
      have hnone : after? "export ".toList name = none := by
        rw [Option.eq_none_iff_forall_ne_some]
        intro rest hrest
        have hblank : ' ' ∈ name := by
          rw [(after?_eq_some_iff _ _ _).mp hrest]
          exact List.mem_append_left _ (by decide)
        exact absurd (hword.solid ' ' hblank) (by decide)
      have hdrop : dropExport (trim name) = name := by
        rw [hword.isPhrase.trim, dropExport, hnone]
      rw [assignment, if_neg Bool.false_ne_true, assignedVariable?_append name text hsign, hdrop,
        if_pos hname]
  | true =>
      have hlead : IsPhrase ("export".toList ++ ' ' :: name) :=
        (isWord_of_any _ (by decide) (by decide)).append hword.isPhrase ' '
      have hfound : after? "export ".toList ("export".toList ++ ' ' :: name) = some name :=
        (after?_eq_some_iff _ _ _).mpr rfl
      have hdrop : dropExport (trim ("export".toList ++ ' ' :: name)) = name := by
        rw [hlead.trim, dropExport, hfound]
        exact hword.isPhrase.trim
      have hleft : '=' ∉ "export".toList ++ ' ' :: name := by
        rw [List.mem_append, List.mem_cons, not_or, not_or]
        exact ⟨by decide, by decide, hsign⟩
      have hline : "export".toList ++ ' ' :: (name ++ '=' :: text) =
          ("export".toList ++ ' ' :: name) ++ '=' :: text := by
        rw [List.append_assoc, List.cons_append]
      rw [assignment, if_pos rfl, hline, assignedVariable?_append _ text hleft, hdrop, if_pos hname]

theorem isPhrase_assignment (exported : Bool) (name text : List Char)
    (hname : isIdentifier name = true) (htext : ∀ c ∈ text.getLast?, isBlank c = false) :
    IsPhrase (assignment exported name text) := by
  have hsign : IsPhrase ('=' :: text) := by
    refine ⟨List.cons_ne_nil _ _, fun c hc => Option.mem_some.mp hc ▸ rfl, fun c hc => ?_⟩
    rw [List.getLast?_cons, Option.mem_some] at hc
    cases hlast : text.getLast? with
    | none => rw [← hc, hlast]; rfl
    | some d => rw [← hc, hlast]; exact htext d hlast
  have hplain := (isWord_of_isIdentifier name hname).isPhrase.append hsign []
  rw [List.nil_append] at hplain
  cases exported with
  | false => exact hplain
  | true => exact (isWord_of_any _ (by decide) (by decide)).append hplain ' '

/-- A line that sets a variable to a text is taken for that if the text
    announces no function, and otherwise for the function. -/
theorem ofText_assignment (exported : Bool) (name text : List Char)
    (hname : isIdentifier name = true) (htext : ∀ c ∈ text.getLast?, isBlank c = false) :
    ofText (assignment exported name text) =
      match announcedFunction? false text with
      | some function => .functionLine function (assignment exported name text)
      | none => .variableLine name (unquote text) := by
  have hplain : Opening name '=' := ⟨hname, .inl rfl⟩
  have hexport : Opening "export".toList ' ' := ⟨by decide, .inr ⟨rfl, rfl⟩⟩
  have hfound := assignedVariable?_assignment exported name text hname
  rw [ofText, (isPhrase_assignment exported name text hname htext).trim]
  cases exported with
  | false =>
      have hsign : (trimLeft ('=' :: text)).head? ≠ some '(' := by
        rw [trimLeft, List.dropWhile_cons_of_neg (by decide), List.head?_cons]
        decide
      rw [assignment, if_neg Bool.false_ne_true] at hfound ⊢
      rw [hplain.ofTrimmed_eq text hsign, hfound]
  | true =>
      have hblank : (trimLeft (' ' :: (name ++ '=' :: text))).head? ≠ some '(' := by
        have hword := isWord_of_isIdentifier name hname
        rw [trimLeft, List.dropWhile_cons_of_pos (by decide),
          dropWhile_isBlank _ (hword.isPhrase.head_append _)]
        rcases (isIdentifier_iff name).mp hname with ⟨d, ds, rfl, hhead, _⟩
        intro hparen
        rw [Option.some.inj hparen] at hhead
        exact absurd hhead (by decide)
      rw [assignment, if_pos rfl] at hfound ⊢
      rw [hexport.ofTrimmed_eq _ hblank, hfound, hplain.announcedFunction?_eq text]

end RcLine

end SimTerm
