import SimTerm.Proofs.Command
import SimTerm.Proofs.Session.Run

/-!
# Echoes

What is shown for a word that is to be echoed.

An echo is no built-in command. It is what a name that starts like one comes to
when nothing else runs under it, and then the rest of the line is shown as it
is. As no part of it is looked at, any word at all can be brought to the output
in this way, in every session in which the name is neither an alias nor a
command and there is a prompt (`submit_echo`).

## Main definitions

* `echoLine`, `echoCommand`: A line that echoes a word, and what it calls.

## Theorems

* `commandOf?_echo`: The command that is called.
* `dispatch_echo`: Its answer.
* `submit_echo`: What is shown.
-/

namespace SimTerm

namespace Session

/-- A line that echoes a word. -/
def echoLine (w : List Char) : String := "echo " ++ String.ofList w

/-- The command that such a line calls. -/
def echoCommand (w : List Char) : Command :=
  { name := "echo", args := [String.ofList w], line := echoLine w, remainder := String.ofList w }

theorem isWord_echo : Text.IsWord "echo".toList :=
  Text.isWord_of_any _ (List.cons_ne_nil _ _) rfl

theorem toList_echoLine (w : List Char) : (echoLine w).toList = "echo".toList ++ ' ' :: w := by
  rw [echoLine, String.toList_append, @String.toList_ofList w]
  rfl

theorem commandOf?_echo (s : Session) (w : List Char) (hw : Text.IsWord w)
    (halias : Fields.get? s.shell.profile.aliases "echo" = none) :
    s.commandOf? (echoLine w) = some (echoCommand w) := by
  have hexpand : s.shell.expandAlias (echoLine w) = echoLine w := by
    simp only [Shell.expandAlias, toList_echoLine, Text.headWord_append _ w isWord_echo ' ' rfl,
      String.ofList_toList, halias]
  have htrim : trimmed (echoLine w) = echoLine w :=
    trimmed_two _ _ w isWord_echo hw ' ' (toList_echoLine w)
  have hparse : Command.parse (echoLine w) = echoCommand w :=
    Command.parse_two _ _ w isWord_echo hw ' ' rfl (toList_echoLine w)
  have hline : (echoLine w).isEmpty = false := by
    rw [Bool.eq_false_iff, ne_eq, String.isEmpty_iff, ← String.toList_eq_nil_iff, toList_echoLine]
    exact List.append_ne_nil_of_left_ne_nil isWord_echo.ne_nil _
  have hname : (echoCommand w).name.isEmpty = false := rfl
  simp only [commandOf?, htrim, hline, hexpand, hparse, hname, Bool.false_eq_true, if_false]

theorem runCommand_echo (now : Moment) (longest : Nat) (s : Session) (w : List Char)
    (hname : s.handler? "echo" = none) (hlong : "echo".length ≤ longest) :
    s.runCommand now longest (echoCommand w) =
      .pure (s.number .output [.str (String.ofList w)]) := by
  have hcommand : (echoCommand w).name = "echo" := rfl
  rw [runCommand, hcommand, if_neg (Nat.not_lt.mpr hlong), hname]
  exact if_pos rfl

/-- The answer is the word. -/
theorem dispatch_echo (now : Moment) (s : Session) (caps : LineCaps) (w : List Char)
    (hw : Text.IsWord w) (halias : Fields.get? s.shell.profile.aliases "echo" = none)
    (hname : s.handler? "echo" = none) (hcaps : s.config.lineCaps = .ok caps)
    (hlong : "echo".length ≤ caps.maxCommandLength.val) :
    s.dispatch now (echoLine w) = .ok (.pure (s.number .output [.str (String.ofList w)])) := by
  -- One line is never too many.
  have hfits : ¬ caps.maxDispatchLines.val < 1 := Nat.not_lt.mpr caps.maxDispatchLines.pos
  simp only [dispatch, commandOf?_echo s w hw halias, hcaps,
    runCommand_echo now _ s w hname hlong, cutAnswer]
  exact congrArg Except.ok (if_neg hfits)

/-- Behind the line itself, the word is shown. -/
theorem submit_echo (now : Moment) (s : Session) (caps : LineCaps) (w : List Char)
    (hw : Text.IsWord w) (halias : Fields.get? s.shell.profile.aliases "echo" = none)
    (hname : s.handler? "echo" = none) (hcaps : s.config.lineCaps = .ok caps)
    (hlong : "echo".length ≤ caps.maxCommandLength.val) (prompt : String)
    (hprompt : s.prompt = .ok prompt) :
    ∃ l, (s.submit now (echoLine w)).value.1 =
      .ok [l, ⟨.output, s.nextLine, .str (String.ofList w)⟩] := by
  have hdispatch := dispatch_echo now s.ready caps w hw halias hname hcaps hlong
  rw [submit_of_prompt now _ s prompt hprompt]
  rcases submitAt_cases prompt now (echoLine w) s with
    ⟨f, hf, _⟩ | ⟨answer, hanswer, hclear, _⟩ | ⟨answer, hanswer, _, h⟩
  · rw [hdispatch] at hf
    exact absurd hf (by simp only [reduceCtorEq, not_false_eq_true])
  · rw [hdispatch, Except.ok.injEq] at hanswer
    rw [← hanswer] at hclear
    exact absurd hclear Bool.false_ne_true
  · rw [hdispatch, Except.ok.injEq] at hanswer
    rw [h, ← hanswer]
    exact ⟨_, rfl⟩

end Session

end SimTerm
