import SimTerm.Proofs.Session.Ending

/-!
# Runs of a Session

The states that a session gets into, as an induction principle.

A session is made from a configuration and then acted on from outside: lines
are submitted or dispatched, a welcome is written, a text is rendered, an old
command is recalled. `act` is one such action and `run` a sequence of them. An
action that raises leaves behind what it had done by then.

What holds of every state is proved once for a new session and once for one
action. `Reachable.invariant` puts the two together, so that no later proof
has to do an induction on runs. The first invariant is that the vocabulary
stays as it is: lines that are run only ever look names up.

## Main definitions

* `Action`: What can be done to a session from outside.
* `act`, `run`: One action and a sequence of actions.
* `Reachable`: The states of a run from a new session.
* `ready`: A session that is ready for a line.
* `standardHandlers`: What runs by name in a new session.

## Theorems

* `dispatch_frame`: A line that is run leaves the frame of a session alone.
* `submit_cases`: What entering a line comes to.
* `Reachable.invariant`: What is kept by every action holds of every state.
* `Reachable.handlers`: The vocabulary is the one of a new session.
* `handler?_builtin`: In such a session a built-in command runs under its name.
-/

namespace SimTerm

namespace Session

/-- What can be done to a session from outside. -/
inductive Action where
  /-- A line is entered. -/
  | submit (now : Moment) (raw : String)
  /-- A line is run without being entered. -/
  | dispatch (now : Moment) (raw : String)
  /-- The first lines are written. -/
  | welcome
  /-- A text is written with the pen. -/
  | render (text : String)
  /-- An earlier command is recalled. -/
  | recallPrevious
  /-- A later command is recalled. -/
  | recallNext

/-- The session after an action. -/
def act (s : Session) : Action → Session
  | .submit now raw => (s.submit now raw).value.2
  | .dispatch now raw =>
    match s.dispatch now raw with
    | .ok answer => answer.value.2
    | .error _ => s
  | .welcome =>
    match s.welcome with
    | .ok r => r.2
    | .error _ => s
  | .render text => (s.render text).2
  | .recallPrevious => s.recallPrevious.2
  | .recallNext => s.recallNext.2

/-- The session after some actions. -/
def run (s : Session) (actions : List Action) : Session := actions.foldl act s

/-- The session is the end of a run from a new one. -/
def Reachable (s : Session) : Prop :=
  ∃ id c isWatching now s₀ actions, ofConfig id c isWatching now = .ok s₀ ∧ s₀.run actions = s

theorem run_invariant (P : Session → Prop) (hact : ∀ s a, P s → P (s.act a)) (s : Session)
    (actions : List Action) (hs : P s) : P (s.run actions) := by
  induction actions generalizing s with
  | nil => exact hs
  | cons a rest ih => exact ih (s.act a) (hact s a hs)

/-- What holds of a new session and is kept by every action holds of every
    state of every run. -/
theorem Reachable.invariant (P : Session → Prop)
    (hstart : ∀ id c isWatching now s, ofConfig id c isWatching now = .ok s → P s)
    (hact : ∀ s a, P s → P (s.act a)) (s : Session) (hs : s.Reachable) : P s := by
  -- The run is the induction, its beginning the only base case.
  rcases hs with ⟨id, c, isWatching, now, s₀, actions, hnew, hrun⟩
  rw [← hrun]
  exact run_invariant P hact s₀ actions (hstart id c isWatching now s₀ hnew)

/-! ### One line -/

/-- The command that is run for a line, and the caps it is run under. -/
theorem dispatch_cases (now : Moment) (raw : String) (s : Session)
    (answer : Traced (List Line × Session)) (h : s.dispatch now raw = .ok answer) :
    (s.commandOf? raw = none ∧ answer = .pure ([], s)) ∨
      ∃ c caps, s.commandOf? raw = some c ∧ s.config.lineCaps = .ok caps ∧
        answer = cutAnswer caps.maxDispatchLines.val c
          (s.runCommand now caps.maxCommandLength.val c) := by
  unfold dispatch at h
  cases hc : s.commandOf? raw with
  | none =>
      rw [hc] at h
      exact .inl ⟨rfl, (Except.ok.inj h).symm⟩
  | some c =>
      cases hcaps : s.config.lineCaps with
      | error f =>
          simp only [hc, hcaps, reduceCtorEq] at h
      | ok caps =>
          simp only [hc, hcaps] at h
          exact .inr ⟨c, caps, rfl, rfl, (Except.ok.inj h).symm⟩

@[simp] theorem cutAnswer_session (limit : Nat) (c : Command)
    (answer : Traced (List Line × Session)) :
    (cutAnswer limit c answer).value.2 = answer.value.2 := by
  unfold cutAnswer
  dsimp only
  split <;> rfl

theorem handle_frame (now : Moment) (h : Handler) (c : Command) (s : Session) :
    Framed s (s.handle now h c).value.2 := by
  cases h with
  | builtin b => exact (ending_frame (perform_ending now c s b)).1
  | added run => exact ⟨rfl, rfl, rfl, rfl, rfl, rfl, rfl⟩

/-- Making lines changes nothing but the number of the next one. -/
theorem Framed.conclude (c : Command) (s : Session) (e : Effect) (h : Framed s e.value.2) :
    Framed s (conclude c e).value.2 := by
  unfold Session.conclude
  cases e.value.1 <;> exact ⟨h.1, h.2, h.3, h.4, h.5, h.6, h.7⟩

theorem runCommand_frame (now : Moment) (longest : Nat) (c : Command) (s : Session) :
    Framed s (s.runCommand now longest c).value.2 := by
  unfold runCommand
  by_cases hlong : longest < c.name.length
  · rw [if_pos hlong]
    exact ⟨rfl, rfl, rfl, rfl, rfl, rfl, rfl⟩
  · rw [if_neg hlong]
    cases s.handler? c.name with
    | some h => exact (s.handle_frame now h c).conclude c s _
    | none =>
        by_cases hecho : isEcho c.name = true
        · simp only [if_pos hecho]
          exact ⟨rfl, rfl, rfl, rfl, rfl, rfl, rfl⟩
        · simp only [if_neg hecho]
          exact ⟨rfl, rfl, rfl, rfl, rfl, rfl, rfl⟩

/-- A line that is run leaves the frame of the session alone. -/
theorem dispatch_frame (now : Moment) (raw : String) (s : Session)
    (answer : Traced (List Line × Session)) (h : s.dispatch now raw = .ok answer) :
    Framed s answer.value.2 := by
  rcases dispatch_cases now raw s answer h with ⟨_, hanswer⟩ | ⟨c, caps, _, _, hanswer⟩
  · rw [hanswer]
    exact ⟨rfl, rfl, rfl, rfl, rfl, rfl, rfl⟩
  · rw [hanswer, cutAnswer_session]
    exact runCommand_frame now _ c s

/-- A session that is ready for a line. -/
def ready (s : Session) : Session := { s with clearRequested := false }

@[simp] theorem ready_handlers (s : Session) : s.ready.handlers = s.handlers := by
  simp only [ready]

@[simp] theorem remember_clearRequested (s : Session) (raw : String) :
    (s.remember raw).clearRequested = s.clearRequested := by
  simp only [remember]

@[simp] theorem remember_handlers (s : Session) (raw : String) :
    (s.remember raw).handlers = s.handlers := by
  simp only [remember]

@[simp] theorem cleared_handlers (s : Session) : s.cleared.handlers = s.handlers := by
  simp only [cleared]

@[simp] theorem record_handlers (s : Session) (prompt raw : String) (answer : List Line) :
    (s.record prompt raw answer).2.handlers = s.handlers := by
  simp only [record, number]

/-- What entering a line at a prompt comes to: the line could not be run, it asked
    for an empty screen, or it is written down with its answer. -/
theorem submitAt_cases (prompt : String) (now : Moment) (raw : String) (s : Session) :
    (∃ f, s.ready.dispatch now raw = .error f ∧
        s.submitAt prompt now raw = ⟨(.error f, s.ready), []⟩) ∨
      (∃ answer, s.ready.dispatch now raw = .ok answer ∧
        answer.value.2.clearRequested = true ∧
        s.submitAt prompt now raw = ⟨(.ok [], (answer.value.2.remember raw).cleared),
          answer.events ++ [.outputCleared s.id]⟩) ∨
      (∃ answer, s.ready.dispatch now raw = .ok answer ∧
        answer.value.2.clearRequested = false ∧
        s.submitAt prompt now raw =
          ⟨(.ok ((answer.value.2.remember raw).record prompt raw answer.value.1).1,
            ((answer.value.2.remember raw).record prompt raw answer.value.1).2),
          answer.events⟩) := by
  unfold submitAt
  dsimp only
  rcases h : s.ready.dispatch now raw with f | ⟨⟨lines, after⟩, events⟩
  · left
    refine ⟨f, rfl, ?_⟩
    rw [ready] at h
    simp only [h, ready]
  · rw [ready] at h
    simp only [h]
    -- Entering the line into the history leaves the request as it is.
    by_cases hclear : after.clearRequested = true
    · right; left
      refine ⟨_, rfl, hclear, ?_⟩
      rw [if_pos (by rw [remember_clearRequested, hclear])]
    · right; right
      refine ⟨_, rfl, Bool.eq_false_iff.mpr hclear, ?_⟩
      rw [if_neg (by rw [remember_clearRequested]; exact hclear)]

/-- Entering a line comes to nothing where there is no prompt. -/
theorem submit_of_no_prompt (now : Moment) (raw : String) (s : Session) (u : Unwritable)
    (h : s.prompt = .error u) : s.submit now raw = ⟨(.error (.unwritable u), s), []⟩ := by
  rw [submit, h]

theorem submit_of_prompt (now : Moment) (raw : String) (s : Session) (prompt : String)
    (h : s.prompt = .ok prompt) : s.submit now raw = s.submitAt prompt now raw := by
  rw [submit, h]

/-- What entering a line comes to: there is no prompt, the line could not be run, it
    asked for an empty screen, or it is written down with its answer. -/
theorem submit_cases (now : Moment) (raw : String) (s : Session) :
    (∃ u, s.prompt = .error u ∧ s.submit now raw = ⟨(.error (.unwritable u), s), []⟩) ∨
      (∃ f, s.ready.dispatch now raw = .error f ∧ s.submit now raw = ⟨(.error f, s.ready), []⟩) ∨
      (∃ answer, s.ready.dispatch now raw = .ok answer ∧
        answer.value.2.clearRequested = true ∧
        s.submit now raw = ⟨(.ok [], (answer.value.2.remember raw).cleared),
          answer.events ++ [.outputCleared s.id]⟩) ∨
      (∃ prompt answer, s.prompt = .ok prompt ∧ s.ready.dispatch now raw = .ok answer ∧
        answer.value.2.clearRequested = false ∧
        s.submit now raw =
          ⟨(.ok ((answer.value.2.remember raw).record prompt raw answer.value.1).1,
            ((answer.value.2.remember raw).record prompt raw answer.value.1).2),
          answer.events⟩) := by
  rcases hprompt : s.prompt with u | prompt
  · exact .inl ⟨u, rfl, submit_of_no_prompt now raw s u hprompt⟩
  · rw [submit_of_prompt now raw s prompt hprompt]
    rcases submitAt_cases prompt now raw s with hfails | hclears | ⟨answer, hrun, hkeeps, h⟩
    · exact .inr (.inl hfails)
    · exact .inr (.inr (.inl hclears))
    · exact .inr (.inr (.inr ⟨prompt, answer, rfl, hrun, hkeeps, h⟩))

/-! ### The vocabulary -/

/-- What runs by name in a new session. -/
def standardHandlers : List (String × Handler) :=
  Builtin.all.map (fun b => (b.name, .builtin b))

theorem submit_handlers (now : Moment) (raw : String) (s : Session) :
    (s.submit now raw).value.2.handlers = s.handlers := by
  rcases submit_cases now raw s with
    ⟨u, _, h⟩ | ⟨f, _, h⟩ | ⟨answer, hrun, _, h⟩ | ⟨prompt, answer, _, hrun, _, h⟩
  · rw [h]
  · rw [h, ready_handlers]
  · rw [h, cleared_handlers, remember_handlers, (dispatch_frame now raw _ answer hrun).handlers,
      ready_handlers]
  · rw [h, record_handlers, remember_handlers, (dispatch_frame now raw _ answer hrun).handlers,
      ready_handlers]

theorem welcome_handlers (s : Session) (lines : List Line) (s' : Session)
    (h : s.welcome = .ok (lines, s')) : s'.handlers = s.handlers := by
  unfold welcome at h
  cases ht : s.config.terminal.demand with
  | error f => simp only [ht, reduceCtorEq] at h
  | ok t =>
      simp only [ht, Except.ok.injEq, Prod.mk.injEq] at h
      rw [← h.2]
      rfl

theorem act_handlers (s : Session) (a : Action) : (s.act a).handlers = s.handlers := by
  cases a with
  | submit now raw =>
      simp only [act]
      exact submit_handlers now raw s
  | dispatch now raw =>
      simp only [act]
      cases h : s.dispatch now raw with
      | error f => rfl
      | ok answer =>
          dsimp only
          rw [(dispatch_frame now raw s answer h).handlers]
  | welcome =>
      simp only [act]
      cases h : s.welcome with
      | error f => rfl
      | ok r =>
          dsimp only
          rw [welcome_handlers s r.1 r.2 h]
  | render text => rfl
  | recallPrevious => rfl
  | recallNext => rfl

theorem capped_ok {α : Type} (r : Except CapFault α) (a : α) (h : capped r = .ok a) :
    r = .ok a := by
  cases r with
  | ok b => exact congrArg Except.ok (Except.ok.inj h)
  | error f => exact absurd h (by simp only [capped, reduceCtorEq, not_false_eq_true])

/-- A new log is empty. -/
theorem ofCap_output (n : Int) (o : OutputLog) (h : OutputLog.ofCap n = .ok o) :
    o = { capacity := o.capacity } := by
  unfold OutputLog.ofCap at h
  split at h
  · exact absurd h (by simp only [reduceCtorEq, not_false_eq_true])
  · rw [← Except.ok.inj h]

/-- A new history is empty. -/
theorem ofCap_history (n : Int) (k : History) (h : History.ofCap n = .ok k) :
    k = { capacity := k.capacity } := by
  unfold History.ofCap at h
  split at h
  · exact absurd h (by simp only [reduceCtorEq, not_false_eq_true])
  · rw [← Except.ok.inj h]

/-- What a new session is built from. -/
theorem ofConfig_eq (id : String) (c : Config) (isWatching : Bool) (now : Moment) (s : Session)
    (h : ofConfig id c isWatching now = .ok s) :
    ∃ (files : FileSettings) (shell : ShellSettings) (kept remembered : Nat),
      s = { id, config := c, isWatching, files := .standard files now, shell := .start shell,
            output := { capacity := kept }, history := { capacity := remembered } } := by
  unfold ofConfig at h
  simp only [bind, Except.bind] at h
  repeat' split at h
  case h_2 files _ _ shell _ _ caps _ _ output houtput _ history hhistory =>
    refine ⟨files, shell, output.capacity, history.capacity, ?_⟩
    rw [← ofCap_output _ output (capped_ok _ _ houtput),
      ← ofCap_history _ history (capped_ok _ _ hhistory)]
    exact (Except.ok.inj h).symm
  -- Any section or cap may be missing, and then there is no session.
  all_goals exact absurd h (by simp only [reduceCtorEq, not_false_eq_true])

theorem ofConfig_handlers (id : String) (c : Config) (isWatching : Bool) (now : Moment)
    (s : Session) (h : ofConfig id c isWatching now = .ok s) : s.handlers = standardHandlers := by
  rcases ofConfig_eq id c isWatching now s h with ⟨files, shell, kept, remembered, rfl⟩
  rfl

/-- In every state the vocabulary is the one of a new session. -/
theorem Reachable.handlers (s : Session) (hs : s.Reachable) : s.handlers = standardHandlers := by
  refine Reachable.invariant (fun s => s.handlers = standardHandlers) ofConfig_handlers ?_ s hs
  intro s a h
  rw [act_handlers, h]

/-- In such a session a built-in command runs under its name. -/
theorem Reachable.handler?_builtin (s : Session) (hs : s.Reachable) (b : Builtin) :
    s.handler? b.name = some (.builtin b) := by
  unfold handler?
  rw [hs.handlers]
  cases b <;> rfl

end Session

end SimTerm
