import SimTerm.Proofs.Session.Naming
import SimTerm.Proofs.Shell.Separation

/-!
# Personas in a Session

Lines that are run do not carry anything from one persona to another.

A line reaches the shell through five commands. `source`, `export` and `alias`
make definitions, `shell` chooses a persona, and `env` only looks. Whichever of
them a line calls, its ending says what has become of the shell, so the law of
one line is the law of one step in the shell (`separates_perform`). The one
thing that an ending cannot tell is that `shell` has to accept every name that
there is a persona for. `chooseShell` is looked at for that.

Everything else that can happen to a session leaves the shell as it is, or is
an operation on the shell from outside. So every turn is such a step, and a run
of turns leaves the profile of a persona alone unless it was active for one of
them.

## Main definitions

* `chosen?`: The persona that a line chooses by what it calls.
* `Turn`: What can be done to a session or to its shell.
* `turn`: The session after a turn.

## Theorems

* `separates_perform`, `separates_line`, `separates_turn`: A command, a line and
  a turn keep the personas apart.
* `personas_apart`: So do operations on a shell, and runs of both leave the
  personas that were not active as they were in the beginning.
-/

namespace SimTerm

namespace Session

/-- The persona that a command chooses. -/
def chosenBy? : Builtin → Command → Option Persona
  | .shell, c => c.first?.bind Persona.ofName?
  | _, _ => none

/-- The persona that a line chooses by what it calls: the one with the name that
    it calls `shell` with. -/
def chosen? (call : Option (Builtin × Command)) : Option Persona :=
  call.bind (fun call => chosenBy? call.1 call.2)

/-- What can be done to a session or to its shell. -/
inductive Turn where
  /-- Something happens to the session. -/
  | happened (h : Happening)
  /-- The shell is changed from outside. -/
  | operated (op : Shell.Operation)
  /-- A command is added. -/
  | registered (name : String) (run : Command → Outcome)

/-- The session after a turn. -/
def turn (s : Session) : Turn → Session
  | .happened h => s.undergo h
  | .operated op => s.withShell (s.shell.operate op)
  | .registered name run => s.register name run

/-- The persona that a turn chooses. -/
def chosenIn? (s : Session) : Turn → Option Persona
  | .happened (.acted (.submit _ raw)) => chosen? (s.entered? raw)
  | .happened (.acted (.dispatch _ raw)) => chosen? (s.called? raw)
  | .operated op => op.chosen?
  | _ => none

/-! ### One turn -/

/-- The `shell` command accepts every name that there is a persona for. -/
theorem separates_chooseShell (s : Session) (c : Command) :
    Shell.Separates (c.first?.bind Persona.ofName?) s.shell (s.chooseShell c).value.2.shell := by
  unfold chooseShell Shell.switch Shell.switch?
  cases c.first? with
  | none => exact s.shell.separates_refl
  | some name =>
      rw [Option.bind_some]
      dsimp only
      cases Persona.ofName? name with
      | none => exact s.shell.separates_refl
      | some who => exact ⟨rfl, fun _ _ => rfl, fun _ _ => rfl⟩

/-- A command keeps the personas apart. -/
theorem separates_perform (now : Moment) (b : Builtin) (c : Command) (s : Session) :
    Shell.Separates (chosenBy? b c) s.shell (s.perform now b c).value.2.shell := by
  by_cases hshell : b = .shell
  · rw [hshell]
    exact s.separates_chooseShell c
  -- No other command chooses a persona, so its ending decides.
  have hnone : chosenBy? b c = none := by
    unfold chosenBy?
    split
    · exact absurd rfl hshell
    · rfl
  have hend := perform_ending now c s b
  generalize (s.perform now b c).value.1 = o at hend
  generalize (s.perform now b c).value.2 = s' at hend ⊢
  rw [hnone]
  cases hend with
  | switched => exact absurd rfl hshell
  | sourced path text => exact s.shell.separates_operate (.load text)
  | exported assignments => exact Shell.separates_setVariables assignments s.shell
  | aliased before value => exact s.shell.separates_operate (.setAlias _ _)
  | _ => exact s.shell.separates_refl

/-- A line keeps the personas apart. What counts is the shell that the called
    command leaves, in the session itself or in one with the same shell. -/
theorem separates_line (now : Moment) (call : Option (Builtin × Command)) (s s' : Session)
    (shell : Shell) (hsame : s'.shell = s.shell)
    (h : (∃ b c, call = some (b, c) ∧ shell = (s'.perform now b c).value.2.shell) ∨
      (call = none ∧ shell = s.shell)) :
    Shell.Separates (chosen? call) s.shell shell := by
  rw [chosen?]
  rcases h with ⟨b, c, hcall, hshell⟩ | ⟨hcall, hshell⟩
  · rw [hshell, hcall, ← hsame]
    exact separates_perform now b c s'
  · rw [hshell, hcall]
    exact s.shell.separates_refl

theorem turn_submit (now : Moment) (raw : String) (s : Session) :
    s.turn (.happened (.acted (.submit now raw))) = (s.submit now raw).value.2 := by
  rw [turn, undergo, act]

/-- A turn keeps the personas apart. -/
theorem separates_turn (s : Session) (t : Turn) :
    Shell.Separates (s.chosenIn? t) s.shell (s.turn t).shell := by
  cases t with
  | registered name run => exact s.shell.separates_refl
  | operated op => exact s.shell.separates_operate op
  | happened h =>
      cases h with
      | filesReplaced files => exact s.shell.separates_refl
      | settingReplaced store =>
          rw [turn, undergo, observe]
          -- What the shell is told about settings is no part of a profile.
          split
          · exact ⟨rfl, fun _ _ => rfl, fun _ _ => rfl⟩
          · exact s.shell.separates_refl
      | acted a =>
          cases a with
          | submit now raw =>
              rw [turn_submit]
              exact separates_line now _ s s.ready _ rfl
                (submit_called (fun s => s.shell) (fun _ _ _ _ _ => rfl) now raw s)
          | dispatch now raw =>
              exact separates_line now _ s s _ rfl
                (act_dispatch_called (fun s => s.shell) (fun _ _ => rfl) now raw s)
          | welcome =>
              rw [turn, undergo, welcome_shell]
              exact s.shell.separates_refl
          | render text => exact s.shell.separates_refl
          | recallPrevious => exact s.shell.separates_refl
          | recallNext => exact s.shell.separates_refl

/-! ### Runs -/

/-- A line that is entered, and every operation on a shell, makes definitions
    for the active persona only or chooses another one, but not both. So after a
    run of operations on a new shell, and after a run of turns of a new session,
    a persona that was active for none of them has the profile from the
    beginning. -/
theorem personas_apart :
    (∀ (now : Moment) (raw : String) (s : Session),
      Shell.Separates (chosen? (s.entered? raw)) s.shell (s.submit now raw).value.2.shell) ∧
    (∀ (sh : Shell) (op : Shell.Operation), Shell.Separates op.chosen? sh (sh.operate op)) ∧
    (∀ (settings : ShellSettings) (ops : List Shell.Operation) (who : Persona),
      who ∉ Shell.usedAlong (fun sh => sh) Shell.operate (Shell.start settings) ops →
        (ops.foldl Shell.operate (Shell.start settings)).profiles.get who =
          Profiles.standard.get who) ∧
    ∀ (id : String) (c : Config) (isWatching : Bool) (now : Moment) (s : Session),
      ofConfig id c isWatching now = .ok s → ∀ (turns : List Turn) (who : Persona),
        who ∉ Shell.usedAlong Session.shell turn s turns →
          (turns.foldl turn s).shell.profiles.get who = Profiles.standard.get who := by
  refine ⟨fun now raw s => ?_, Shell.separates_operate, fun settings ops who hwho => ?_,
    fun id c isWatching now s hnew turns who hwho => ?_⟩
  · rw [← turn_submit]
    exact separates_turn s (.happened (.acted (.submit now raw)))
  · exact Shell.profile_of_not_mem_usedAlong (fun sh => sh) Shell.operate (fun _ op => op.chosen?)
      Shell.separates_operate ops (Shell.start settings) who hwho
  · have hkept := Shell.profile_of_not_mem_usedAlong Session.shell turn chosenIn? separates_turn
      turns s who hwho
    -- The profiles of a new session are the standard ones.
    rcases ofConfig_eq id c isWatching now s hnew with ⟨files, shell, kept, remembered, hs⟩
    rw [hkept, hs]
    rfl

/-- Definitions for two personas, in lines, in a file and from outside. -/
def crossing : List Turn :=
  [.happened (.acted (.submit noon "alias ll=ls -l")), .operated (.switch "Fish"),
    .happened (.filesReplaced oneFile), .happened (.acted (.submit noon "source rc")),
    .operated (.load "export EDITOR=vi"), .happened (.acted (.dispatch noon "shell bash"))]

/-- The two that are not used keep their profiles, in a session and in a shell
    of its own. -/
theorem personas_apart_crossing :
    (ofConfig "1" {} false noon = .ok untouched ∧
      .zsh ∉ Shell.usedAlong Session.shell turn untouched crossing ∧
      (crossing.foldl turn untouched).shell.profiles.get .zsh = Profiles.standard.get .zsh) ∧
    .powershell ∉ Shell.usedAlong (fun sh => sh) Shell.operate (Shell.start {})
        [.setVariable "A" "1", .switch "fish", .load "set -x B 2"] ∧
      (([.setVariable "A" "1", .switch "fish", .load "set -x B 2"].foldl Shell.operate
        (Shell.start {})).profiles.get .powershell = Profiles.standard.get .powershell) := by
  have hnew : ofConfig "1" {} false noon = .ok untouched := by rfl
  have hturns : Shell.usedAlong Session.shell turn untouched crossing =
      [.bash, .bash, .fish, .fish, .fish, .fish] := by decide +kernel
  have hops : .powershell ∉ Shell.usedAlong (fun sh => sh) Shell.operate (Shell.start {})
      [.setVariable "A" "1", .switch "fish", .load "set -x B 2"] := by decide +kernel
  have hzsh : .zsh ∉ Shell.usedAlong Session.shell turn untouched crossing := by
    rw [hturns]
    decide
  exact ⟨⟨hnew, hzsh, personas_apart.2.2.2 "1" {} false noon untouched hnew crossing .zsh hzsh⟩,
    hops, personas_apart.2.2.1 {} _ .powershell hops⟩

end Session

end SimTerm
