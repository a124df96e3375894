import Mathlib.Data.List.TakeDrop
import Mathlib.Data.List.TakeWhile
import SimTerm.Proofs.Text.Words
import SimTerm.Shell.RcLine

/-!
# Forms of Lines in a Shell Configuration

What the scanner of shell configurations takes for a definition.

A line can define an alias in three ways, a function in two and a variable in
four. `AliasForm`, `FunctionForm` and `VariableForm` have a constructor for each
of these ways, and a constructor says what the line is put together from: a
keyword, a gap of blanks, a name, a text. They know nothing about the scanner,
which looks for the same parts from the left. `ofTrimmed_written` says that the
scanner finds nothing else. What it takes for a definition has one of the forms,
with this name and with this text less the blanks around it and its quotes.

The forms overlap, and a line can have several at once. Then the order counts in
which the scanner tries them, and a line that is meant for an alias is not tried
any further. So a line with a form may still define nothing, but a line without
a form never defines anything.

What the names and values are like can be read off the forms. The name of an
alias is a word, as a gap follows it or an equals sign. The name of a variable
is a variable name. No value has a quote in it.

## Main definitions

* `IsGap`: Some characters, all of them blank.
* `AliasForm`, `FunctionForm`, `VariableForm`: The ways to write a definition.
* `Written`: A line is written in one of these ways.

## Theorems

* `span1?_append`, `afterBlanks?_append`: How the scanner takes a part that it
  looks for.
* `aliasForm_of_aliasOf?`, `functionForm_of_function?`, `variableForm_of_assigned?`:
  What it finds was written like that.
* `ofTrimmed_assigned`: An alias with an equals sign is found.
* `ofTrimmed_written`: Everything that a line defines was written like that.
* `ofText_aliasLine`: An alias that a line defines is a word.
* `ofText_variableLine`: A variable that a line sets is called by a variable name.
-/

namespace SimTerm

namespace RcLine

open Text

/-- Some characters, all of them blank. -/
structure IsGap (gap : List Char) : Prop where
  /-- There are some. -/
  ne_nil : gap ≠ []
  /-- All are blank. -/
  blank : ∀ c ∈ gap, isBlank c = true

/-- The options of a command: each is a dash, letters and a gap. -/
inductive IsOptions : List Char → Prop where
  /-- There are none. -/
  | nil : IsOptions []
  /-- One option and others behind it. -/
  | cons (letters gap rest : List Char) (hne : letters ≠ [])
      (hletters : ∀ c ∈ letters, c.isAlpha = true) (hgap : IsGap gap) (hrest : IsOptions rest) :
      IsOptions ('-' :: (letters ++ (gap ++ rest)))

/-- The ways to write an alias, with its name and the text for its value. -/
inductive AliasForm : List Char → List Char → List Char → Prop where
  /-- With an equals sign behind the name. -/
  | assigned (gap name text : List Char) (hgap : IsGap gap) (hname : IsWord name)
      (hsign : '=' ∉ name) :
      AliasForm ("alias".toList ++ (gap ++ (name ++ '=' :: text))) name text
  /-- With a gap behind the name. -/
  | spaced (gap name gap' text : List Char) (hgap : IsGap gap) (hname : IsWord name)
      (hgap' : IsGap gap') (htext : text ≠ []) :
      AliasForm ("alias".toList ++ (gap ++ (name ++ (gap' ++ text)))) name text
  /-- The same behind another keyword, whatever the case of its letters. -/
  | setAlias (word gap name gap' text : List Char)
      (hword : List.Forall₂ (fun w c => isLetterOf w c = true) "set-alias".toList word)
      (hgap : IsGap gap) (hname : IsWord name) (hgap' : IsGap gap') (htext : text ≠ []) :
      AliasForm (word ++ (gap ++ (name ++ (gap' ++ text)))) name text

/-- The ways to define a function, with its name. -/
inductive FunctionForm : List Char → List Char → Prop where
  /-- The name behind the keyword, which may stand anywhere but not inside a word. -/
  | announced (front gap name rest : List Char)
      (hfront : ∀ c ∈ front.getLast?, isWordChar c = false) (hgap : IsGap gap) (hne : name ≠ [])
      (hname : ∀ c ∈ name, isFunctionNameChar c = true) :
      FunctionForm (front ++ ("function".toList ++ (gap ++ (name ++ rest)))) name
  /-- The name in front of parentheses. -/
  | called (c : Char) (tail blanks rest : List Char) (hhead : isIdentifierHead c = true)
      (htail : ∀ d ∈ tail, isCallNameChar d = true) (hblanks : ∀ d ∈ blanks, isBlank d = true)
      (hclosed : ')' ∈ rest) :
      FunctionForm (c :: tail ++ (blanks ++ '(' :: rest)) (c :: tail)

/-- The ways to set a variable, with its name and the text for its value. -/
inductive VariableForm : List Char → List Char → List Char → Prop where
  /-- As an entry of the environment. -/
  | environment (name blanks text : List Char) (hname : isIdentifier name = true)
      (hblanks : ∀ c ∈ blanks, isBlank c = true) :
      VariableForm ("$env:".toList ++ (name ++ (blanks ++ '=' :: text))) name text
  /-- With a keyword, options and a gap behind the name. -/
  | fish (gap options name gap' text : List Char) (hgap : IsGap gap) (hoptions : IsOptions options)
      (hname : isIdentifier name = true) (hgap' : IsGap gap') (htext : text ≠ []) :
      VariableForm ("set".toList ++ (gap ++ (options ++ (name ++ (gap' ++ text))))) name text
  /-- With an equals sign behind the name. -/
  | assigned (left text : List Char) (hsign : '=' ∉ left) (hname : isIdentifier (trim left) = true) :
      VariableForm (left ++ '=' :: text) (trim left) text
  /-- The same with another keyword in front. -/
  | exported (left rest text : List Char) (hsign : '=' ∉ left)
      (hleft : trim left = "export ".toList ++ rest) (hname : isIdentifier (trim rest) = true) :
      VariableForm (left ++ '=' :: text) (trim rest) text

/-- A line without blanks around it is written in one of the ways. -/
inductive Written (line : List Char) : RcLine → Prop where
  /-- It is written like an alias, with something for a value. -/
  | aliasLine (name text : List Char) (hform : AliasForm line name text) (hvalue : unquote text ≠ []) :
      Written line (.aliasLine name (unquote text))
  /-- It is written like a function. -/
  | functionLine (name : List Char) (hform : FunctionForm line name) :
      Written line (.functionLine name line)
  /-- It is written like a variable. -/
  | variableLine (name text : List Char) (hform : VariableForm line name text) :
      Written line (.variableLine name (unquote text))

/-! ### Parts of a line -/

/-- A keyword is found where the line begins with it. -/
theorem after?_eq_some_iff (start cs rest : List Char) :
    after? start cs = some rest ↔ cs = start ++ rest := by
  unfold after?
  constructor
  · intro h
    split at h
    case isTrue hstart =>
      rw [List.isPrefixOf_iff_prefix] at hstart
      rw [← Option.some.inj h]
      exact (List.prefix_iff_eq_append.mp hstart).symm
    case isFalse => exact absurd h (by simp only [reduceCtorEq, not_false_eq_true])
  · intro h
    rw [h, if_pos (List.isPrefixOf_iff_prefix.mpr (List.prefix_append start rest)),
      List.drop_left]

/-- A gap is found in front of what does not begin with a blank. -/
theorem afterBlanks?_eq_some (cs rest : List Char) (h : afterBlanks? cs = some rest) :
    ∃ gap, IsGap gap ∧ cs = gap ++ rest := by
  cases cs with
  | nil => exact absurd h (by simp only [afterBlanks?, reduceCtorEq, not_false_eq_true])
  | cons c cs =>
      rw [afterBlanks?] at h
      by_cases hc : isBlank c = true
      · rw [if_pos hc, Option.some.injEq, trimLeft] at h
        refine ⟨c :: cs.takeWhile isBlank, ⟨List.cons_ne_nil _ _, ?_⟩, ?_⟩
        · exact List.forall_mem_cons.mpr ⟨hc, fun d hd => List.mem_takeWhile_imp hd⟩
        · rw [← h, List.cons_append, List.takeWhile_append_dropWhile]
      · rw [if_neg hc] at h
        exact absurd h (by simp only [reduceCtorEq, not_false_eq_true])

theorem afterBlanks?_append (gap rest : List Char) (hgap : IsGap gap)
    (hrest : ∀ c ∈ rest.head?, isBlank c = false) : afterBlanks? (gap ++ rest) = some rest := by
  rcases List.exists_cons_of_ne_nil hgap.ne_nil with ⟨c, blanks, rfl⟩
  rcases List.forall_mem_cons.mp hgap.blank with ⟨hc, hblanks⟩
  rw [List.cons_append, afterBlanks?, if_pos hc, trimLeft, List.dropWhile_append_of_pos hblanks,
    dropWhile_isBlank rest hrest]

/-- A run of characters of a class has some characters, all of the class. -/
theorem span1?_eq_some (p : Char → Bool) (cs run rest : List Char)
    (h : span1? p cs = some (run, rest)) :
    cs = run ++ rest ∧ run ≠ [] ∧ ∀ c ∈ run, p c = true := by
  unfold span1? at h
  split at h
  case h_1 => exact absurd h (by simp only [reduceCtorEq, not_false_eq_true])
  case h_2 run' rest' hne hspan =>
    rw [List.span_eq_takeWhile_dropWhile, Prod.mk.injEq] at hspan
    simp only [Option.some.injEq, Prod.mk.injEq] at h
    rw [← h.1, ← h.2, ← hspan.1, ← hspan.2]
    refine ⟨List.takeWhile_append_dropWhile.symm, ?_, fun c hc => List.mem_takeWhile_imp hc⟩
    rw [hspan.1]
    exact hne

/-- A run of characters of a class ends in front of a character that is none. -/
theorem span_append (p : Char → Bool) (run rest : List Char) (hrun : ∀ c ∈ run, p c = true)
    (hrest : ∀ c ∈ rest.head?, p c = false) : (run ++ rest).span p = (run, rest) := by
  rw [List.span_eq_takeWhile_dropWhile, List.takeWhile_append_of_pos hrun,
    List.dropWhile_append_of_pos hrun]
  cases rest with
  | nil => rw [List.takeWhile_nil, List.dropWhile_nil, List.append_nil]
  | cons c rest =>
      have hc : ¬ p c = true := by
        rw [hrest c rfl]
        exact Bool.false_ne_true
      rw [List.takeWhile_cons_of_neg hc, List.dropWhile_cons_of_neg hc, List.append_nil]

theorem span1?_append (p : Char → Bool) (run rest : List Char) (hne : run ≠ [])
    (hrun : ∀ c ∈ run, p c = true) (hrest : ∀ c ∈ rest.head?, p c = false) :
    span1? p (run ++ rest) = some (run, rest) := by
  unfold span1?
  rw [span_append p run rest hrun hrest]
  split
  case h_1 hnil => exact absurd (congrArg Prod.fst hnil) hne
  case h_2 h => rw [← h]

theorem unquote_quoteless (text : List Char) : ∀ c ∈ unquote text, isQuote c = false := by
  intro c hc
  rw [unquote, List.mem_filter] at hc
  rw [← Bool.not_eq_true']
  exact hc.2

/-! ### Aliases -/

theorem aliasForm_of_assignedAlias? (line name text : List Char)
    (h : assignedAlias? line = some (name, text)) : AliasForm line name text := by
  unfold assignedAlias? at h
  split at h
  case h_1 => exact absurd h (by simp only [reduceCtorEq, not_false_eq_true])
  case h_2 cs hcs =>
    rcases Option.bind_eq_some_iff.mp hcs with ⟨rest, hline, hrest⟩
    rw [after?_eq_some_iff] at hline
    rcases afterBlanks?_eq_some rest cs hrest with ⟨gap, hgap, rfl⟩
    split at h
    case h_1 name' text' hrun =>
      simp only [Option.some.injEq, Prod.mk.injEq] at h
      rw [hline, ← h.1, ← h.2]
      rcases span1?_eq_some _ cs name' _ hrun with ⟨rfl, hne, hall⟩
      -- The class of the run leaves out blanks and the equals sign.
      have hclass : ∀ c ∈ name', c ≠ '=' ∧ isBlank c = false := by
        intro c hc
        have hboth := hall c hc
        rw [Bool.and_eq_true, bne_iff_ne, Bool.not_eq_true'] at hboth
        exact hboth
      exact .assigned gap name' text' hgap ⟨hne, fun c hc => (hclass c hc).2⟩
        fun hsign => (hclass '=' hsign).1 rfl
    case h_2 => exact absurd h (by simp only [reduceCtorEq, not_false_eq_true])

/-- An alias with an equals sign is found with its name and its text. -/
theorem assignedAlias?_append (gap name text : List Char) (hgap : IsGap gap) (hname : IsWord name)
    (hsign : '=' ∉ name) :
    assignedAlias? ("alias".toList ++ (gap ++ (name ++ '=' :: text))) = some (name, text) := by
  have hafter := afterBlanks?_append gap (name ++ '=' :: text) hgap (hname.isPhrase.head_append _)
  have hrun := span1?_append (fun c => c != '=' && !isBlank c) name ('=' :: text) hname.ne_nil
    (fun c hc => by
      rw [Bool.and_eq_true, bne_iff_ne, hname.solid c hc]
      exact ⟨fun heq => hsign (heq ▸ hc), rfl⟩)
    (fun c hc => by
      rw [← Option.mem_some.mp hc]
      rfl)
  unfold assignedAlias?
  rw [(after?_eq_some_iff _ _ _).mpr rfl, Option.bind_some, hafter]
  dsimp only
  rw [hrun]
  rfl

theorem wordAndText?_eq_some (cs name text : List Char)
    (h : wordAndText? cs = some (name, text)) :
    ∃ gap, IsWord name ∧ IsGap gap ∧ text ≠ [] ∧ cs = name ++ (gap ++ text) := by
  unfold wordAndText? at h
  split at h
  case h_1 => exact absurd h (by simp only [reduceCtorEq, not_false_eq_true])
  case h_2 name' rest hrun =>
    rcases span1?_eq_some _ cs name' rest hrun with ⟨rfl, hne, hall⟩
    split at h
    case h_1 => exact absurd h (by simp only [reduceCtorEq, not_false_eq_true])
    case h_2 => exact absurd h (by simp only [reduceCtorEq, not_false_eq_true])
    case h_3 text' htext hafter =>
      simp only [Option.some.injEq, Prod.mk.injEq] at h
      rcases afterBlanks?_eq_some rest text' hafter with ⟨gap, hgap, rfl⟩
      rw [← h.1, ← h.2]
      exact ⟨gap, ⟨hne, fun c hc => Bool.not_eq_true' _ ▸ hall c hc⟩, hgap, htext, rfl⟩

theorem afterAnyCase?_eq_some (ws cs rest : List Char) (h : afterAnyCase? ws cs = some rest) :
    ∃ word, List.Forall₂ (fun w c => isLetterOf w c = true) ws word ∧ cs = word ++ rest := by
  induction ws generalizing cs with
  | nil => exact ⟨[], .nil, Option.some.inj h⟩
  | cons w ws ih =>
      cases cs with
      | nil => exact absurd h (by simp only [afterAnyCase?, reduceCtorEq, not_false_eq_true])
      | cons c cs =>
          rw [afterAnyCase?] at h
          by_cases hc : isLetterOf w c = true
          · rw [if_pos hc] at h
            rcases ih cs h with ⟨word, hword, hcs⟩
            exact ⟨c :: word, .cons hc hword, by rw [hcs, List.cons_append]⟩
          · rw [if_neg hc] at h
            exact absurd h (by simp only [reduceCtorEq, not_false_eq_true])

/-- Behind a keyword, a gap is found and then a name, a gap and a text. -/
theorem gaps_of_wordAndText? (found : Option (List Char)) (name text : List Char)
    (h : (found.bind afterBlanks?).bind wordAndText? = some (name, text)) :
    ∃ gap gap', found = some (gap ++ (name ++ (gap' ++ text))) ∧ IsGap gap ∧ IsWord name ∧
      IsGap gap' ∧ text ≠ [] := by
  rcases Option.bind_eq_some_iff.mp h with ⟨cs, hcs, hword⟩
  rcases Option.bind_eq_some_iff.mp hcs with ⟨rest, hfound, hrest⟩
  rcases afterBlanks?_eq_some rest cs hrest with ⟨gap, hgap, rfl⟩
  rcases wordAndText?_eq_some cs name text hword with ⟨gap', hname, hgap', htext, rfl⟩
  exact ⟨gap, gap', hfound, hgap, hname, hgap', htext⟩

/-- An alias that is found was written like one, and has a value. -/
theorem aliasForm_of_aliasOf? (line name value : List Char)
    (h : aliasOf? line = some (name, value)) :
    ∃ text, AliasForm line name text ∧ value = unquote text ∧ value ≠ [] := by
  unfold aliasOf? at h
  split at h
  case h_1 => exact absurd h (by simp only [reduceCtorEq, not_false_eq_true])
  case h_2 name' text hfound =>
    dsimp only at h
    split at h
    case isTrue => exact absurd h (by simp only [reduceCtorEq, not_false_eq_true])
    case isFalse hempty =>
      simp only [Option.some.injEq, Prod.mk.injEq] at h
      rw [← h.1, ← h.2]
      refine ⟨text, ?_, rfl, fun hnil => hempty (List.isEmpty_iff.mpr hnil)⟩
      -- The three ways to write an alias.
      rcases Option.or_eq_some_iff.mp hfound with hassigned | ⟨_, hfound⟩
      · exact aliasForm_of_assignedAlias? line name' text hassigned
      · rcases Option.or_eq_some_iff.mp hfound with hspaced | ⟨_, hset⟩
        · rcases gaps_of_wordAndText? _ name' text hspaced with
            ⟨gap, gap', hline, hgap, hname, hgap', htext⟩
          rw [(after?_eq_some_iff _ _ _).mp hline]
          exact .spaced gap name' gap' text hgap hname hgap' htext
        · rcases gaps_of_wordAndText? _ name' text hset with
            ⟨gap, gap', hline, hgap, hname, hgap', htext⟩
          rcases afterAnyCase?_eq_some _ line _ hline with ⟨word, hcase, rfl⟩
          exact .setAlias word gap name' gap' text hcase hgap hname hgap' htext

theorem AliasForm.isWord {line name text : List Char} (h : AliasForm line name text) :
    IsWord name := by
  cases h with
  | assigned gap name text hgap hname hsign => exact hname
  | spaced gap name gap' text hgap hname hgap' htext => exact hname
  | setAlias word gap name gap' text hword hgap hname hgap' htext => exact hname

/-! ### Functions -/

theorem functionName?_eq_some (cs name : List Char) (h : functionName? cs = some name) :
    ∃ gap rest, IsGap gap ∧ name ≠ [] ∧ (∀ c ∈ name, isFunctionNameChar c = true) ∧
      cs = "function".toList ++ (gap ++ (name ++ rest)) := by
  unfold functionName? at h
  split at h
  case h_1 => exact absurd h (by simp only [reduceCtorEq, not_false_eq_true])
  case h_2 found hfound =>
    rcases Option.bind_eq_some_iff.mp hfound with ⟨after, hcs, hafter⟩
    rcases afterBlanks?_eq_some after found hafter with ⟨gap, hgap, rfl⟩
    rcases Option.map_eq_some_iff.mp h with ⟨⟨name', rest⟩, hrun, hname⟩
    rcases span1?_eq_some _ found name' rest hrun with ⟨rfl, hne, hall⟩
    rw [← hname]
    exact ⟨gap, rest, hgap, hne, hall, (after?_eq_some_iff _ _ _).mp hcs⟩

/-- A function that is announced somewhere in a text is announced outside of
    words. The text may follow a word itself, and then not at its start. -/
theorem announcedFunction?_eq_some (inWord : Bool) (cs name : List Char)
    (h : announcedFunction? inWord cs = some name) :
    ∃ front rest, functionName? rest = some name ∧ cs = front ++ rest ∧
      (front = [] → inWord = false) ∧ ∀ c ∈ front.getLast?, isWordChar c = false := by
  induction cs generalizing inWord with
  | nil => exact absurd h (by simp only [announcedFunction?, reduceCtorEq, not_false_eq_true])
  | cons c cs ih =>
      rw [announcedFunction?] at h
      split at h
      case h_1 name' hfound =>
        rw [← Option.some.inj h]
        by_cases hword : inWord = true
        · rw [if_pos hword] at hfound
          exact absurd hfound (by simp only [reduceCtorEq, not_false_eq_true])
        · rw [if_neg hword] at hfound
          refine ⟨[], c :: cs, hfound, rfl, fun _ => Bool.eq_false_iff.mpr hword, ?_⟩
          exact fun d hd => absurd hd (Option.not_mem_none d)
      case h_2 =>
        rcases ih (isWordChar c) h with ⟨front, rest, hfound, hcs, hstart, hlast⟩
        refine ⟨c :: front, rest, hfound, by rw [hcs, List.cons_append],
          fun hnil => absurd hnil (List.cons_ne_nil _ _), fun d hd => ?_⟩
        -- The last character before the keyword is this one, or one behind it.
        cases front with
        | nil =>
            rw [List.getLast?_singleton, Option.mem_some] at hd
            rw [← hd]
            exact hstart rfl
        | cons e front =>
            rw [List.getLast?_cons_cons] at hd
            exact hlast d hd

/-- A name in front of a parenthesis is found if the parenthesis is closed. -/
theorem functionForm_of_calledFunction? (line name : List Char)
    (h : calledFunction? line = some name) : FunctionForm line name := by
  unfold calledFunction? at h
  split at h
  case h_1 => exact absurd h (by simp only [reduceCtorEq, not_false_eq_true])
  case h_2 c cs =>
    split at h
    case isTrue => exact absurd h (by simp only [reduceCtorEq, not_false_eq_true])
    case isFalse hstart =>
      rw [Bool.or_eq_true, not_or, Bool.not_eq_true', Bool.not_eq_true', Bool.not_eq_false,
        Bool.not_eq_false] at hstart
      rw [List.span_eq_takeWhile_dropWhile] at h
      dsimp only at h
      split at h
      case isFalse => exact absurd h (by simp only [reduceCtorEq, not_false_eq_true])
      case isTrue hparen =>
        rw [beq_iff_eq, List.head?_eq_some_iff] at hparen
        rcases hparen with ⟨rest, hrest⟩
        have htail : ∀ d ∈ cs.takeWhile isCallNameChar, isCallNameChar d = true :=
          fun d hd => List.mem_takeWhile_imp hd
        have hblanks : ∀ d ∈ (cs.dropWhile isCallNameChar).takeWhile isBlank, isBlank d = true :=
          fun d hd => List.mem_takeWhile_imp hd
        have hline : c :: cs = c :: cs.takeWhile isCallNameChar ++
            ((cs.dropWhile isCallNameChar).takeWhile isBlank ++ '(' :: rest) := by
          rw [← hrest, trimLeft, List.takeWhile_append_dropWhile, List.cons_append,
            List.takeWhile_append_dropWhile]
        rw [← Option.some.inj h, hline]
        refine .called c _ _ rest hstart.1 htail hblanks ?_
        -- No parenthesis comes before this one, so what closes it comes behind it.
        have hbefore : ∀ d ∈ c :: cs.takeWhile isCallNameChar ++
            (cs.dropWhile isCallNameChar).takeWhile isBlank, (d != '(') = true := by
          intro d hd
          rw [bne_iff_ne]
          rintro rfl
          rw [List.cons_append, List.mem_cons, List.mem_append] at hd
          rcases hd with hc | hd | hd
          · rw [← hc] at hstart
            exact absurd hstart.1 (by decide)
          · exact absurd (htail _ hd) (by decide)
          · exact absurd (hblanks _ hd) (by decide)
        have hclosed := hstart.2
        rw [hasParentheses, hline, ← List.append_assoc, List.dropWhile_append_of_pos hbefore,
          List.dropWhile_cons_of_neg (by decide), List.contains_iff_mem, List.mem_cons] at hclosed
        exact hclosed.resolve_left (by decide)

/-- A function that is found was written like one. -/
theorem functionForm_of_function? (line name : List Char) (h : function? line = some name) :
    FunctionForm line name := by
  rcases Option.or_eq_some_iff.mp h with hannounced | ⟨_, hcalled⟩
  · rcases announcedFunction?_eq_some false line name hannounced with
      ⟨front, rest, hname, rfl, _, hfront⟩
    rcases functionName?_eq_some rest name hname with ⟨gap, rest, hgap, hne, hall, rfl⟩
    exact .announced front gap name rest hfront hgap hne hall
  · exact functionForm_of_calledFunction? line name hcalled

/-! ### Variables -/

theorem identifier?_eq_some (cs name rest : List Char) (h : identifier? cs = some (name, rest)) :
    cs = name ++ rest ∧ isIdentifier name = true := by
  cases cs with
  | nil => exact absurd h (by simp only [identifier?, reduceCtorEq, not_false_eq_true])
  | cons c cs =>
      unfold identifier? at h
      dsimp only at h
      by_cases hhead : isIdentifierHead c = true
      · rw [if_pos hhead, List.span_eq_takeWhile_dropWhile] at h
        simp only [Option.some.injEq, Prod.mk.injEq] at h
        rw [← h.1, ← h.2, isIdentifier, hhead, Bool.true_and, List.all_eq_true, List.cons_append,
          List.takeWhile_append_dropWhile]
        exact ⟨rfl, fun d hd => List.mem_takeWhile_imp hd⟩
      · rw [if_neg hhead] at h
        exact absurd h (by simp only [reduceCtorEq, not_false_eq_true])

theorem variableForm_of_envVariable? (line name text : List Char)
    (h : envVariable? line = some (name, text)) : VariableForm line name text := by
  unfold envVariable? at h
  split at h
  case h_1 => exact absurd h (by simp only [reduceCtorEq, not_false_eq_true])
  case h_2 name' rest hfound =>
    rcases Option.bind_eq_some_iff.mp hfound with ⟨cs, hline, hname⟩
    rcases identifier?_eq_some cs name' rest hname with ⟨rfl, hvalid⟩
    split at h
    case h_1 text' hsign =>
      simp only [Option.some.injEq, Prod.mk.injEq] at h
      have hrest : rest = rest.takeWhile isBlank ++ '=' :: text' := by
        rw [← hsign, trimLeft, List.takeWhile_append_dropWhile]
      rw [(after?_eq_some_iff _ _ _).mp hline, ← h.1, ← h.2, hrest]
      exact .environment name' _ text' hvalid fun c hc => List.mem_takeWhile_imp hc
    case h_2 => exact absurd h (by simp only [reduceCtorEq, not_false_eq_true])

theorem afterOption?_eq_some (cs rest : List Char) (h : afterOption? cs = some rest) :
    ∃ letters gap, letters ≠ [] ∧ (∀ c ∈ letters, c.isAlpha = true) ∧ IsGap gap ∧
      cs = '-' :: (letters ++ (gap ++ rest)) := by
  unfold afterOption? at h
  split at h
  case h_1 cs' =>
    rcases Option.bind_eq_some_iff.mp h with ⟨after, hfound, hafter⟩
    rcases Option.map_eq_some_iff.mp hfound with ⟨⟨letters, after'⟩, hrun, hsame⟩
    dsimp only at hsame
    rcases span1?_eq_some _ cs' letters after' hrun with ⟨rfl, hne, hall⟩
    rcases afterBlanks?_eq_some after rest hafter with ⟨gap, hgap, hgaprest⟩
    exact ⟨letters, gap, hne, hall, hgap, by rw [hsame, hgaprest]⟩
  case h_2 => exact absurd h (by simp only [reduceCtorEq, not_false_eq_true])

/-- What is passed over in front of a name are options. -/
theorem afterOptions_eq (fuel : Nat) (cs : List Char) :
    ∃ options, IsOptions options ∧ cs = options ++ afterOptions fuel cs := by
  induction fuel generalizing cs with
  | zero => exact ⟨[], .nil, rfl⟩
  | succ fuel ih =>
      rw [afterOptions]
      split
      case h_1 rest hoption =>
        rcases afterOption?_eq_some cs rest hoption with ⟨letters, gap, hne, hall, hgap, hcs⟩
        rcases ih rest with ⟨options, hoptions, hrest⟩
        refine ⟨'-' :: (letters ++ (gap ++ options)), .cons letters gap options hne hall hgap hoptions,
          ?_⟩
        rw [hcs, List.cons_append, List.append_assoc, List.append_assoc, ← hrest]
      case h_2 => exact ⟨[], .nil, rfl⟩

theorem variableForm_of_fishVariable? (line name text : List Char)
    (h : fishVariable? line = some (name, text)) : VariableForm line name text := by
  unfold fishVariable? at h
  split at h
  case h_1 => exact absurd h (by simp only [reduceCtorEq, not_false_eq_true])
  case h_2 cs hfound =>
    rcases Option.bind_eq_some_iff.mp hfound with ⟨after, hline, hafter⟩
    rcases afterBlanks?_eq_some after cs hafter with ⟨gap, hgap, rfl⟩
    split at h
    case h_1 => exact absurd h (by simp only [reduceCtorEq, not_false_eq_true])
    case h_2 name' rest hname =>
      rcases identifier?_eq_some _ name' rest hname with ⟨hcs, hvalid⟩
      rcases afterOptions_eq cs.length cs with ⟨options, hoptions, hbehind⟩
      split at h
      case h_1 => exact absurd h (by simp only [reduceCtorEq, not_false_eq_true])
      case h_2 => exact absurd h (by simp only [reduceCtorEq, not_false_eq_true])
      case h_3 text' htext hrest =>
        simp only [Option.some.injEq, Prod.mk.injEq] at h
        rcases afterBlanks?_eq_some rest text' hrest with ⟨gap', hgap', rfl⟩
        rw [(after?_eq_some_iff _ _ _).mp hline, hbehind, hcs, ← h.1, ← h.2]
        exact .fish gap options name' gap' text' hgap hoptions hvalid hgap' htext

theorem variableForm_of_assignedVariable? (line name text : List Char)
    (h : assignedVariable? line = some (name, text)) : VariableForm line name text := by
  unfold assignedVariable? at h
  split at h
  case h_2 => exact absurd h (by simp only [reduceCtorEq, not_false_eq_true])
  case h_1 left text' hspan =>
    dsimp only at h
    split at h
    case isFalse => exact absurd h (by simp only [reduceCtorEq, not_false_eq_true])
    case isTrue hvalid =>
      simp only [Option.some.injEq, Prod.mk.injEq] at h
      rw [List.span_eq_takeWhile_dropWhile, Prod.mk.injEq] at hspan
      have hline : line = left ++ '=' :: text' := by
        rw [← hspan.1, ← hspan.2, List.takeWhile_append_dropWhile]
      have hsign : '=' ∉ left := by
        rw [← hspan.1]
        intro hmem
        exact absurd (List.mem_takeWhile_imp hmem) (by decide)
      rw [hline, ← h.1, ← h.2]
      -- A keyword in front of the name is no part of it.
      unfold dropExport at hvalid ⊢
      cases hexport : after? "export ".toList (trim left) with
      | none =>
          rw [hexport] at hvalid
          exact .assigned left text' hsign hvalid
      | some rest =>
          rw [hexport] at hvalid
          exact .exported left rest text' hsign ((after?_eq_some_iff _ _ _).mp hexport) hvalid

/-- A variable that is found was written like one. -/
theorem variableForm_of_assigned? (line name value : List Char)
    (h : assigned? line = some (name, value)) :
    ∃ text, VariableForm line name text ∧ value = unquote text := by
  rcases Option.map_eq_some_iff.mp h with ⟨⟨name', text⟩, hfound, hv⟩
  rw [Prod.mk.injEq] at hv
  rw [← hv.1]
  refine ⟨text, ?_, hv.2.symm⟩
  rcases Option.or_eq_some_iff.mp hfound with henv | ⟨_, hfound⟩
  · exact variableForm_of_envVariable? line name' text henv
  · rcases Option.or_eq_some_iff.mp hfound with hfish | ⟨_, hassigned⟩
    · exact variableForm_of_fishVariable? line name' text hfish
    · exact variableForm_of_assignedVariable? line name' text hassigned

theorem VariableForm.isIdentifier {line name text : List Char} (h : VariableForm line name text) :
    Text.isIdentifier name = true := by
  cases h with
  | environment name blanks text hname hblanks => exact hname
  | fish gap options name gap' text hgap hoptions hname hgap' htext => exact hname
  | assigned left text hsign hname => exact hname
  | exported left rest text hsign hleft hname => exact hname

/-! ### Lines -/

/-- A blank line and a comment define nothing. -/
theorem ofTrimmed_other (line : List Char) (h : line = [] ∨ line.head? = some '#') :
    ofTrimmed line = .other := by
  rw [ofTrimmed, if_pos]
  rw [Bool.or_eq_true, List.isEmpty_iff, beq_iff_eq]
  exact h

/-- An alias with an equals sign defines what is written behind the sign. -/
theorem ofTrimmed_assigned (gap name text : List Char) (hgap : IsGap gap) (hname : IsWord name)
    (hsign : '=' ∉ name) (hvalue : unquote text ≠ []) :
    ofTrimmed ("alias".toList ++ (gap ++ (name ++ '=' :: text))) =
      .aliasLine name (unquote text) := by
  have hstart : ¬ (("alias".toList ++ (gap ++ (name ++ '=' :: text))).isEmpty ||
      ("alias".toList ++ (gap ++ (name ++ '=' :: text))).head? == some '#') = true :=
    Bool.false_ne_true
  have hfound : aliasOf? ("alias".toList ++ (gap ++ (name ++ '=' :: text))) =
      some (name, unquote text) := by
    unfold aliasOf?
    rw [assignedAlias?_append gap name text hgap hname hsign, Option.some_or]
    dsimp only
    rw [if_neg (fun hempty => hvalue (List.isEmpty_iff.mp hempty))]
  rw [ofTrimmed, if_neg hstart, hfound]

/-- What a line defines it was written to define. -/
theorem ofTrimmed_written (line : List Char) :
    ofTrimmed line = .other ∨ Written line (ofTrimmed line) := by
  unfold ofTrimmed
  split
  case isTrue => exact .inl rfl
  case isFalse =>
    split
    case h_1 name value halias =>
      rcases aliasForm_of_aliasOf? line name value halias with ⟨text, hform, rfl, hvalue⟩
      exact .inr (.aliasLine name text hform hvalue)
    case h_2 =>
      split
      case isTrue => exact .inl rfl
      case isFalse =>
        split
        case h_1 name hfunction =>
          exact .inr (.functionLine name (functionForm_of_function? line name hfunction))
        case h_2 =>
          split
          case h_1 name value hvariable =>
            rcases variableForm_of_assigned? line name value hvariable with ⟨text, hform, rfl⟩
            exact .inr (.variableLine name text hform)
          case h_2 => exact .inl rfl

theorem written_of_ofText (line : List Char) (r : RcLine) (h : ofText line = r)
    (hr : r ≠ .other) : Written (trim line) r := by
  rw [← h] at hr ⊢
  exact (ofTrimmed_written (trim line)).resolve_left hr

/-- An alias that a line defines is a word. -/
theorem ofText_aliasLine (line name value : List Char)
    (h : ofText line = .aliasLine name value) : IsWord name := by
  cases written_of_ofText line _ h (by simp only [ne_eq, reduceCtorEq, not_false_eq_true]) with
  | aliasLine name text hform hvalue => exact hform.isWord

/-- A variable that a line sets is called by a variable name. -/
theorem ofText_variableLine (line name value : List Char)
    (h : ofText line = .variableLine name value) : isIdentifier name = true := by
  cases written_of_ofText line _ h (by simp only [ne_eq, reduceCtorEq, not_false_eq_true]) with
  | variableLine name text hform => exact hform.isIdentifier

end RcLine

end SimTerm
