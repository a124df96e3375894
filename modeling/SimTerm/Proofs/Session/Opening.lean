import SimTerm.Proofs.Config.Replacement
import SimTerm.Proofs.Session.Run

/-!
# Opening a Session

From which configurations a session can be made, and what entering a line into it
leaves alone.

A configuration needs its sections and its caps, and two of the caps have to fit
the machine besides, as they bound what a session keeps (`Fits`). Once a session
is there, a line needs a prompt and the other two caps (`submit_ok`), and no line
changes the configuration (`submit_config`).

## Main definitions

* `Input`: A line of input and the moment at which it is entered.
* `enter`, `after`, `answers`: A session after one line and after some lines,
  and what they were answered.
* `Fits`: The caps of what is kept fit the machine.

## Theorems

* `submit_keeps`: What entering a line leaves alone.
* `submit_config`: No line changes the configuration.
* `submit_ok`: A line is answered where there is a prompt and the caps are.
* `ofConfig_cases`: When there is a session with a configuration.
-/

namespace SimTerm

namespace Session

/-- A line of input, and the moment at which it is entered. -/
abbrev Input := Moment × String

/-- The session after a line was entered. -/
def enter (s : Session) (i : Input) : Session := (s.submit i.1 i.2).value.2

/-- The session after some lines were entered. -/
def after (s : Session) (inputs : List Input) : Session := inputs.foldl enter s

/-- What some lines are answered with, one after another. -/
def answers (s : Session) : List Input → List (Except ConfigFault (List Line))
  | [] => []
  | i :: rest => (s.submit i.1 i.2).value.1 :: (s.enter i).answers rest

/-! ### Lines -/

/-- What no line that is run changes is not changed by entering a line either,
    unless it can be told by what entering writes down. -/
theorem submit_keeps {α : Type} (f : Session → α)
    (hf : ∀ (s : Session) (nextLine : Nat) (output : OutputLog) (history : History)
      (clearRequested : Bool), f { s with nextLine, output, history, clearRequested } = f s)
    (hrun : ∀ now raw (s : Session) answer, s.dispatch now raw = .ok answer →
      f answer.value.2 = f s)
    (now : Moment) (raw : String) (s : Session) : f (s.submit now raw).value.2 = f s := by
  have hready : f s.ready = f s := hf s s.nextLine s.output s.history false
  rcases submit_cases now raw s with
    ⟨_, _, h⟩ | ⟨_, _, h⟩ | ⟨answer, hanswer, _, h⟩ | ⟨prompt, answer, _, hanswer, _, h⟩
  · rw [h]
  · rw [h, hready]
  · have hcleared : f (answer.value.2.remember raw).cleared = f answer.value.2 := by
      simp only [remember, cleared, hf]
    rw [h, hcleared, hrun now raw _ answer hanswer, hready]
  · have hrecorded : f ((answer.value.2.remember raw).record prompt raw answer.value.1).2 =
        f answer.value.2 := by
      simp only [remember, record, number, hf]
    rw [h, hrecorded, hrun now raw _ answer hanswer, hready]

/-- No line changes the configuration. -/
theorem submit_config (now : Moment) (raw : String) (s : Session) :
    (s.submit now raw).value.2.config = s.config :=
  submit_keeps Session.config (fun _ _ _ _ _ => rfl)
    (fun now raw s answer h => (dispatch_frame now raw s answer h).config) now raw s

/-- A line is answered in a session that has a prompt, and whose configuration has
    the caps. -/
theorem submit_ok (now : Moment) (raw : String) (s : Session) (caps : LineCaps)
    (hcaps : s.config.lineCaps = .ok caps) (prompt : String) (hprompt : s.prompt = .ok prompt) :
    ∃ lines, (s.submit now raw).value.1 = .ok lines := by
  have hdispatch : ∃ answer, s.ready.dispatch now raw = .ok answer := by
    unfold dispatch
    rw [show s.ready.config = s.config from rfl, hcaps]
    cases s.ready.commandOf? raw with
    | none => exact ⟨_, rfl⟩
    | some c => exact ⟨_, rfl⟩
  rcases hdispatch with ⟨answer, hanswer⟩
  rw [submit_of_prompt now raw s prompt hprompt]
  rcases submitAt_cases prompt now raw s with ⟨f, hf, _⟩ | ⟨_, _, _, h⟩ | ⟨_, _, _, h⟩
  · rw [hanswer] at hf
    exact absurd hf (by simp only [reduceCtorEq, not_false_eq_true])
  · rw [h]
    exact ⟨_, rfl⟩
  · rw [h]
    exact ⟨_, rfl⟩

/-! ### The beginning -/

/-- The caps of what a session keeps fit the machine. -/
def Fits (caps : KeptCaps) : Prop :=
  caps.maxOutputLines.val ≤ maxIndex ∧ caps.maxHistory.val ≤ maxIndex

theorem checkCap_cap (cap : Cap) :
    checkCap cap.val = if cap.val ≤ maxIndex then .ok cap.val else .error .tooLarge := by
  have hpos := cap.pos
  unfold checkCap
  rw [if_neg (by omega)]
  by_cases hfits : cap.val ≤ maxIndex
  · rw [if_neg (by omega), if_pos hfits, Int.toNat_natCast]
  · rw [if_pos (by omega), if_neg hfits]

/-- There is a session with a configuration that has all its sections and caps
    exactly when those fit, and what it looks at is that configuration. -/
theorem ofConfig_cases (id : String) (c : Config) (isWatching : Bool) (now : Moment)
    (caps : KeptCaps) (shell : ShellSettings) (files : FileSettings)
    (hcaps : c.keptCaps = .ok caps) (hshell : c.shell = .settings shell)
    (hfiles : c.files = .settings files) :
    (Fits caps ∧ ofConfig id c isWatching now = .ok
        { id, config := c, isWatching, files := .standard files now, shell := .start shell,
          output := { capacity := caps.maxOutputLines.val }
          history := { capacity := caps.maxHistory.val } }) ∨
      (¬ Fits caps ∧ ofConfig id c isWatching now = .error (.cap .tooLarge)) := by
  unfold Fits ofConfig OutputLog.ofCap History.ofCap
  simp only [hcaps, hshell, hfiles, Section.demand, configured, bind, Except.bind, checkCap_cap]
  -- The output comes first, and then the history.
  by_cases houtput : caps.maxOutputLines.val ≤ maxIndex
  · by_cases hhistory : caps.maxHistory.val ≤ maxIndex
    · left
      simp only [if_pos houtput, if_pos hhistory, capped]
      exact ⟨⟨houtput, hhistory⟩, rfl⟩
    · right
      simp only [if_pos houtput, if_neg hhistory, capped]
      exact ⟨fun h => hhistory h.2, trivial⟩
  · right
    simp only [if_neg houtput, capped]
    exact ⟨fun h => houtput h.1, trivial⟩

end Session

end SimTerm
