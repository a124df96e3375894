import SimTerm.Proofs.Command
import SimTerm.Proofs.Session.Call
import SimTerm.Proofs.Text.Lowercase

/-!
# Aliases in a Line

A line that begins with an alias is run as the line that the alias stands for.

What a line is answered with depends on the line through its command alone, and
the command is read from the trimmed line after its alias was replaced
(`dispatch_eq`). Trimming, taking the first word off and reading words are three
ways to deal with the same blanks, and each of them is done twice here, once for
the line and once for what the alias stands for. They agree because the words of
a line do not depend on blanks at its ends, and because the first of them stands
before the first blank as soon as those are gone (`expanded_of_get?`).

The value of an alias may be anything. It may be empty or begin with a blank, and
then the first word of the new line comes from behind the alias or from within
the value; it may end in the middle of a word that goes on behind the alias. So
the first word of the new line is what has to be looked at, and not the value.
If that word is an alias again, it is not replaced: what runs is the command of
the new line as it stands. Only if it is no alias is running the new line the
same (`alias_expands_once`).

## Main definitions

* `answerTo`: What a session answers to a command.
* `expansion`: A line with its first word replaced.
* `circular`: A session with aliases that stand for each other.

## Theorems

* `dispatch_eq`: The answer to a line is that to its command.
* `expanded_of_get?`, `expanded_of_forall`: The command of a line that begins
  with an alias, and of one that does not.
* `alias_expands_once`: A line with an alias is run as its expansion.
* `alias_expands_once_circular`: The same where that begins with an alias again.
-/

namespace SimTerm

namespace Session

/-- What a session answers to a command, cut at the cap. -/
def answerTo (s : Session) (now : Moment) (c : Command) :
    Except ConfigFault (Traced (List Line × Session)) :=
  s.config.lineCaps.map (fun caps =>
    cutAnswer caps.maxDispatchLines.val c (s.runCommand now caps.maxCommandLength.val c))

/-- A line with its first word replaced by a value. What follows the word in the
    trimmed line is kept. -/
def expansion (value : String) (w : List Char) (raw : String) : String :=
  value ++ String.ofList ((Text.trim raw.toList).drop w.length)

/-- The answer to a line is the one to its command, if its command has a name. -/
theorem dispatch_eq (s : Session) (now : Moment) (raw : String) :
    s.dispatch now raw =
      if (s.expanded raw).name = "" then .ok (.pure ([], s)) else s.answerTo now (s.expanded raw) := by
  rw [dispatch, commandOf?_eq]
  by_cases hname : s.word raw = ""
  · rw [if_pos hname, if_pos (show (s.expanded raw).name = "" from hname)]
  · rw [if_neg hname, if_neg (show ¬ (s.expanded raw).name = "" from hname), answerTo]
    dsimp only
    cases s.config.lineCaps <;> rfl

/-- The command of a line that begins with an alias. -/
theorem expanded_of_get? (s : Session) (raw : String) (w : List Char) (value : String)
    (hword : (Text.words raw.toList).head? = some w)
    (halias : Fields.get? s.shell.profile.aliases (String.ofList w) = some value) :
    s.expanded raw = Command.parse (expansion value w raw) := by
  rcases Text.headWord_trim raw.toList w hword with ⟨hhead, hafter⟩
  have hw : Text.IsWord w := Text.isWord_of_mem_words raw.toList w (List.mem_of_mem_head? hword)
  rw [expanded, Shell.expandAlias, trimmed, String.toList_ofList]
  simp only [hhead, hafter, halias, hw.isEmpty, Bool.false_eq_true, if_false, expansion]

/-- The command of a line that does not begin with an alias. -/
theorem expanded_of_forall (s : Session) (raw : String)
    (h : ∀ w, (Text.words raw.toList).head? = some w →
      Fields.get? s.shell.profile.aliases (String.ofList w) = none) :
    s.expanded raw = Command.parse raw := by
  rw [expanded]
  by_cases hblank : trimmed raw = ""
  · rw [hblank, expandAlias_empty, ← hblank, Command.parse_trimmed]
  · -- A line that is not blank has a first word.
    have hne : Text.trim raw.toList ≠ [] := fun hnil => hblank (by rw [trimmed, hnil])
    rcases List.exists_cons_of_ne_nil (Text.words_ne_nil _ (Text.isPhrase_trim _ hne)) with
      ⟨w, rest, hwords⟩
    rw [Text.words_trim] at hwords
    have hword : (Text.words raw.toList).head? = some w := by rw [hwords, List.head?_cons]
    have hhead := (Text.headWord_trim raw.toList w hword).1
    have hkept : s.shell.expandAlias (trimmed raw) = trimmed raw := by
      simp only [Shell.expandAlias, trimmed, String.toList_ofList, hhead, h w hword]
    rw [hkept, Command.parse_trimmed]

/-- A line that begins with an alias is run as its expansion. If the expansion
    does not begin with an alias itself, that is what is done with the expansion
    as a line of its own: the lines, their numbers and the session are the same.
    In any case the expansion is not expanded again. Nothing is done if it is
    blank, and otherwise its first word in small letters is the name of the
    command that runs, and its other words are what the command runs with. -/
theorem alias_expands_once (s : Session) (now : Moment) (raw : String) (w : List Char)
    (value : String) (hword : (Text.words raw.toList).head? = some w)
    (halias : Fields.get? s.shell.profile.aliases (String.ofList w) = some value) :
    ((∀ v, (Text.words (expansion value w raw).toList).head? = some v →
          Fields.get? s.shell.profile.aliases (String.ofList v) = none) →
        s.dispatch now raw = s.dispatch now (expansion value w raw)) ∧
      (Text.words (expansion value w raw).toList = [] →
        s.dispatch now raw = .ok (.pure ([], s))) ∧
      ∀ v rest, Text.words (expansion value w raw).toList = v :: rest →
        s.dispatch now raw = s.answerTo now (Command.parse (expansion value w raw)) ∧
          (Command.parse (expansion value w raw)).name = String.ofList (Text.lower v) ∧
          (Command.parse (expansion value w raw)).args = rest.map String.ofList := by
  have hexpanded := s.expanded_of_get? raw w value hword halias
  refine ⟨fun hlast => ?_, fun hnil => ?_, fun v rest hwords => ?_⟩
  · rw [dispatch_eq, dispatch_eq, hexpanded, s.expanded_of_forall _ hlast]
  · rw [dispatch_eq, hexpanded, Command.parse_of_words_nil _ hnil, if_pos rfl]
  · have hparse := Command.parse_of_words _ v rest hwords
    have hv : Text.IsWord v :=
      Text.isWord_of_mem_words _ v (by rw [hwords]; exact List.mem_cons_self)
    have hname : String.ofList (Text.lower v) ≠ "" := by
      rw [ne_eq, ← String.toList_eq_nil_iff, String.toList_ofList]
      exact Text.lower_ne_nil v hv.ne_nil
    rw [dispatch_eq, hexpanded]
    refine ⟨if_neg ?_, ?_, ?_⟩
    · rw [hparse]
      exact hname
    · rw [hparse]
    · rw [hparse]

/-- A session with aliases that stand for each other, for a line that begins with
    a blank, and for nothing. -/
def circular : Session :=
  { untouched with
    shell := (((untouched.shell.setAlias "ls" "ll -l").setAlias "ll" "ls -a").setAlias
      "say" " ECHO so").setAlias "sudo" "" }

/-- The alias in the expansion is not replaced, and neither is the one that an
    empty value leaves at the front. -/
theorem alias_expands_once_circular :
    (Text.words " ll\tdocs ".toList).head? = some "ll".toList ∧
      Fields.get? circular.shell.profile.aliases "ll" = some "ls -a" ∧
      circular.dispatch noon " ll\tdocs " =
        circular.answerTo noon ⟨"ls", ["-a", "docs"], "ls -a\tdocs", "-a\tdocs"⟩ ∧
      circular.dispatch noon "sudo ll" = circular.answerTo noon ⟨"ll", [], "ll", ""⟩ ∧
      circular.dispatch noon " sudo" = .ok (.pure ([], circular)) ∧
      circular.dispatch noon "say  it" = circular.dispatch noon " ECHO so  it" := by
  have hword : (Text.words " ll\tdocs ".toList).head? = some "ll".toList := by rfl
  have halias : Fields.get? circular.shell.profile.aliases "ll" = some "ls -a" := by rfl
  have hll := alias_expands_once circular noon " ll\tdocs " "ll".toList "ls -a" hword halias
  have hempty := alias_expands_once circular noon "sudo ll" "sudo".toList "" (by rfl) (by rfl)
  have hnothing := alias_expands_once circular noon " sudo" "sudo".toList "" (by rfl) (by rfl)
  have hsay := alias_expands_once circular noon "say  it" "say".toList " ECHO so" (by rfl) (by rfl)
  refine ⟨hword, halias, (hll.2.2 "ls".toList ["-a".toList, "docs".toList] (by rfl)).1,
    (hempty.2.2 "ll".toList [] (by rfl)).1, hnothing.2.1 (by rfl), hsay.1 (fun v hv => ?_)⟩
  have hecho : (Text.words (expansion " ECHO so" "say".toList "say  it").toList).head? =
      some "ECHO".toList := by rfl
  rw [hecho, Option.some.injEq] at hv
  rw [← hv]
  rfl

end Session

end SimTerm
