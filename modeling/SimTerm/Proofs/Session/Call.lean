import SimTerm.Proofs.Fields
import SimTerm.Proofs.Session.Refusal

/-!
# What a Line Calls

Which built-in command a line comes to, and that the session has nothing else
to expect from the line.

Between a line and the command that it runs there are the trimming of the
line, the replacement of an alias, the cap on names and the look-up of the
name. `called?` puts all of them together. If it finds a command, the session
after the line is the one that the command leaves, up to the number of the
next line. If it finds none, the line was blank, or its name was too long, or
what runs under the name sees nothing but the line, and then the session is
the one from before (`dispatch_called`). And a called command is refused
exactly if it ends without lines (`refused_iff`). So what holds of a line is a
question about single commands, and those are answered by the ways in which a
built-in command can end.

## Main definitions

* `called?`: The built-in command that a line runs.
* `entered?`: The one that it runs when it is entered.
* `RunsOwn`: Built-in commands run under their own names only.
* `word`: The word that names what a line runs.
* `untouched`: A session in which nothing has happened yet.

## Theorems

* `commandOf?_eq`: The command of a line is told by its word.
* `called?_eq_some_iff`, `entered?_eq_some_iff`: When a line calls a command.
* `dispatch_called`: The session after a line.
* `act_dispatch_called`, `submit_called`: The same for a line that is run and for
  one that is entered.
* `refused_iff`: When a line that calls a command is refused.
-/

namespace SimTerm

namespace Session

/-- The parts of a line, trimmed and with its alias replaced once. -/
def expanded (s : Session) (raw : String) : Command :=
  Command.parse (s.shell.expandAlias (trimmed raw))

/-- The word that names what a line runs: the first one of the trimmed line
    with its alias replaced once, in small letters. -/
def word (s : Session) (raw : String) : String := (s.expanded raw).name

/-- The built-in command that a line runs, with its parts. There is none if the
    line is blank, its name is too long, or something else runs under it. -/
def called? (s : Session) (raw : String) : Option (Builtin × Command) :=
  match s.commandOf? raw, s.config.lineCaps with
  | some c, .ok caps =>
    if caps.maxCommandLength.val < c.name.length then none
    else
      match s.handler? c.name with
      | some (.builtin b) => some (b, c)
      | _ => none
  | _, _ => none

/-- The built-in command that a line runs when it is entered. Without a prompt
    it is not run at all. -/
def entered? (s : Session) (raw : String) : Option (Builtin × Command) :=
  match s.prompt with
  | .ok _ => s.called? raw
  | .error _ => none

/-! ### The vocabulary -/

/-- Built-in commands run under their own names only. -/
def RunsOwn (s : Session) : Prop :=
  ∀ name b, s.handler? name = some (.builtin b) → name = b.name

theorem runsOwn_of_handlers (s : Session) (h : s.handlers = standardHandlers) : s.RunsOwn := by
  intro name b hname
  have hmem := Fields.mem_of_get? s.handlers name _ hname
  rw [h, standardHandlers, List.mem_map] at hmem
  rcases hmem with ⟨b', _, hb⟩
  simp only [Prod.mk.injEq, Handler.builtin.injEq] at hb
  rw [← hb.1, hb.2]

theorem RunsOwn.of_handlers_eq {s s' : Session} (hs : s.RunsOwn) (h : s'.handlers = s.handlers) :
    s'.RunsOwn := by
  intro name b hname
  rw [handler?, h] at hname
  exact hs name b hname

/-! ### The command of a line -/

theorem expandAlias_empty (sh : Shell) : sh.expandAlias "" = "" := by
  unfold Shell.expandAlias
  dsimp only
  split <;> rfl

/-- A line without a word calls nothing, and any other line what its word names. -/
theorem commandOf?_eq (s : Session) (raw : String) :
    s.commandOf? raw = if s.word raw = "" then none else some (s.expanded raw) := by
  unfold commandOf? word expanded
  dsimp only
  by_cases hblank : trimmed raw = ""
  · rw [hblank, expandAlias_empty]
    rfl
  · rw [if_neg (by rw [String.isEmpty_iff]; exact hblank)]
    simp only [String.isEmpty_iff]

theorem commandOf?_eq_some (s : Session) (raw : String) (c : Command)
    (h : s.commandOf? raw = some c) : c = s.expanded raw := by
  rw [commandOf?_eq] at h
  split at h
  · exact absurd h (by simp only [reduceCtorEq, not_false_eq_true])
  · exact (Option.some.inj h).symm

/-- When a line calls a built-in command. -/
theorem called?_eq_some_iff (s : Session) (raw : String) (b : Builtin) (c : Command) :
    s.called? raw = some (b, c) ↔
      ∃ caps, s.config.lineCaps = .ok caps ∧ s.commandOf? raw = some c ∧
        c.name.length ≤ caps.maxCommandLength.val ∧ s.handler? c.name = some (.builtin b) := by
  unfold called?
  constructor
  · intro h
    split at h
    case h_1 c' caps hc hcaps =>
      by_cases hlong : caps.maxCommandLength.val < c'.name.length
      · rw [if_pos hlong] at h
        exact absurd h (by simp only [reduceCtorEq, not_false_eq_true])
      · rw [if_neg hlong] at h
        split at h
        case h_1 b' hb =>
          simp only [Option.some.injEq, Prod.mk.injEq] at h
          rw [← h.1, ← h.2]
          exact ⟨caps, hcaps, hc, Nat.not_lt.mp hlong, hb⟩
        case h_2 => exact absurd h (by simp only [reduceCtorEq, not_false_eq_true])
    case h_2 => exact absurd h (by simp only [reduceCtorEq, not_false_eq_true])
  · rintro ⟨caps, hcaps, hc, hshort, hb⟩
    simp only [hc, hcaps, if_neg (Nat.not_lt.mpr hshort), hb]

/-- A line that is entered calls what it calls, if there is a prompt. -/
theorem entered?_eq_some_iff (s : Session) (raw : String) (call : Builtin × Command) :
    s.entered? raw = some call ↔
      (∃ prompt, s.prompt = .ok prompt) ∧ s.called? raw = some call := by
  rw [entered?]
  cases s.prompt with
  | ok prompt => exact (and_iff_right ⟨prompt, rfl⟩).symm
  | error u => simp only [reduceCtorEq, exists_false, false_and]

/-- What a line calls does not depend on a request for an empty screen. -/
theorem called?_ready (s : Session) (raw : String) : s.ready.called? raw = s.called? raw := by
  have hc : s.ready.commandOf? raw = s.commandOf? raw := rfl
  have hh : ∀ name, s.ready.handler? name = s.handler? name := fun _ => rfl
  have hcaps : s.ready.config = s.config := rfl
  simp only [called?, hc, hh, hcaps]

/-! ### The session after a line -/

/-- Making the lines of an outcome takes numbers and nothing else. -/
theorem conclude_session (c : Command) (e : Effect) :
    ∃ n, (conclude c e).value.2 = { e.value.2 with nextLine := n } := by
  unfold conclude
  cases e.value.1 <;> exact ⟨_, rfl⟩

/-- The session after a line is the one that the called command leaves, up to
    the number of the next line. -/
theorem dispatch_called (now : Moment) (raw : String) (s : Session)
    (answer : Traced (List Line × Session)) (h : s.dispatch now raw = .ok answer) :
    (∃ b c n, s.called? raw = some (b, c) ∧
        answer.value.2 = { (s.perform now b c).value.2 with nextLine := n }) ∨
      (s.called? raw = none ∧ ∃ n, answer.value.2 = { s with nextLine := n }) := by
  rcases dispatch_cases now raw s answer h with ⟨hnone, hanswer⟩ | ⟨c, caps, hc, hcaps, hanswer⟩
  · right
    rw [hanswer]
    exact ⟨by simp only [called?, hnone], s.nextLine, rfl⟩
  · rw [hanswer, cutAnswer_session]
    unfold runCommand
    by_cases hlong : caps.maxCommandLength.val < c.name.length
    · rw [if_pos hlong]
      exact .inr ⟨by simp only [called?, hc, hcaps, if_pos hlong], _, rfl⟩
    · rw [if_neg hlong]
      rcases hh : s.handler? c.name with _ | b | run
      · -- An echo and a name that nothing is known of make one line.
        refine .inr ⟨by simp only [called?, hc, hcaps, if_neg hlong, hh], s.nextLine + 1, ?_⟩
        dsimp only
        split <;> rfl
      · rcases conclude_session c (s.perform now b c) with ⟨n, hn⟩
        exact .inl ⟨b, c, n, by simp only [called?, hc, hcaps, if_neg hlong, hh], hn⟩
      · rcases conclude_session c (s.handle now (.added run) c) with ⟨n, hn⟩
        exact .inr ⟨by simp only [called?, hc, hcaps, if_neg hlong, hh], n, hn⟩

/-- A line that could not be run calls nothing: what it lacked are the caps. -/
theorem called?_of_dispatch_error (now : Moment) (raw : String) (s : Session) (e : ConfigFault)
    (h : s.dispatch now raw = .error e) : s.called? raw = none := by
  cases hcalled : s.called? raw with
  | none => rfl
  | some call =>
      rcases (called?_eq_some_iff s raw call.1 call.2).mp hcalled with ⟨caps, hcaps, hc, _⟩
      simp only [dispatch, hc, hcaps, reduceCtorEq] at h

/-- The same for the session after the action, as far as the number of the next
    line cannot tell. -/
theorem act_dispatch_called {α : Type} (f : Session → α)
    (hf : ∀ (s : Session) (nextLine : Nat), f { s with nextLine } = f s) (now : Moment)
    (raw : String) (s : Session) :
    (∃ b c, s.called? raw = some (b, c) ∧
        f (s.act (.dispatch now raw)) = f (s.perform now b c).value.2) ∨
      (s.called? raw = none ∧ f (s.act (.dispatch now raw)) = f s) := by
  rw [act]
  cases h : s.dispatch now raw with
  | error e => exact .inr ⟨called?_of_dispatch_error now raw s e h, rfl⟩
  | ok answer =>
      dsimp only
      rcases dispatch_called now raw s answer h with ⟨b, c, n, hcall, hafter⟩ | ⟨hcall, n, hafter⟩
      · exact .inl ⟨b, c, hcall, by rw [hafter, hf]⟩
      · exact .inr ⟨hcall, by rw [hafter, hf]⟩

/-- The same for a line that is entered, as far as what entering writes down
    cannot tell. -/
theorem submit_called {α : Type} (f : Session → α)
    (hf : ∀ (s : Session) (nextLine : Nat) (output : OutputLog) (history : History)
      (clearRequested : Bool), f { s with nextLine, output, history, clearRequested } = f s)
    (now : Moment) (raw : String) (s : Session) :
    (∃ b c, s.entered? raw = some (b, c) ∧
        f (s.submit now raw).value.2 = f (s.ready.perform now b c).value.2) ∨
      (s.entered? raw = none ∧ f (s.submit now raw).value.2 = f s) := by
  cases hprompt : s.prompt with
  | error u =>
      rw [submit_of_no_prompt now raw s u hprompt]
      exact .inr ⟨by rw [entered?, hprompt], rfl⟩
  | ok prompt =>
  rw [submit_of_prompt now raw s prompt hprompt,
    show s.entered? raw = s.called? raw by rw [entered?, hprompt]]
  have hready : f s.ready = f s := hf s s.nextLine s.output s.history false
  -- What is written down behind the line does not matter to `f`.
  have hwritten : (∃ e, s.ready.dispatch now raw = .error e ∧
        f (s.submitAt prompt now raw).value.2 = f s) ∨
      ∃ answer, s.ready.dispatch now raw = .ok answer ∧
        f (s.submitAt prompt now raw).value.2 = f answer.value.2 := by
    rcases submitAt_cases prompt now raw s with
      ⟨e, he, h⟩ | ⟨answer, hanswer, _, h⟩ | ⟨answer, hanswer, _, h⟩
    · exact .inl ⟨e, he, by rw [h, hready]⟩
    · refine .inr ⟨answer, hanswer, ?_⟩
      rw [h]
      simp only [remember, cleared, hf]
    · refine .inr ⟨answer, hanswer, ?_⟩
      rw [h]
      simp only [remember, record, number, hf]
  rcases hwritten with ⟨e, he, h⟩ | ⟨answer, hanswer, h⟩
  · rw [← called?_ready]
    exact .inr ⟨called?_of_dispatch_error now raw s.ready e he, h⟩
  · have hsame : ∀ (t : Session) (n : Nat), f { t with nextLine := n } = f t :=
      fun t n => hf t n t.output t.history t.clearRequested
    rw [← called?_ready]
    rcases dispatch_called now raw s.ready answer hanswer with
      ⟨b, c, n, hcall, hafter⟩ | ⟨hcall, n, hafter⟩
    · exact .inl ⟨b, c, hcall, by rw [h, hafter, hsame]⟩
    · exact .inr ⟨hcall, by rw [h, hafter, hsame, hready]⟩

/-! ### Refused lines -/

/-- A line that calls a built-in command is refused exactly if the command ends
    without lines. -/
theorem refused_iff (now : Moment) (raw : String) (s : Session) (b : Builtin) (c : Command)
    (answer : Traced (List Line × Session)) (h : s.dispatch now raw = .ok answer)
    (hcall : s.called? raw = some (b, c)) :
    Refused s answer ↔ ∀ texts, (s.perform now b c).value.1 ≠ .lines texts := by
  rcases (called?_eq_some_iff s raw b c).mp hcall with ⟨caps, hcaps, hc, hshort, hb⟩
  constructor
  · intro href texts ho
    rcases href.line with ⟨text, hline⟩
    rcases dispatch_cases now raw s answer h with ⟨hnone, _⟩ | ⟨c', caps', hc', hcaps', hanswer⟩
    · rw [hnone] at hc
      exact absurd hc (by simp only [reduceCtorEq, not_false_eq_true])
    · rw [hc, Option.some.injEq] at hc'
      rw [hcaps, Except.ok.injEq] at hcaps'
      rw [hanswer, ← hc', ← hcaps'] at hline
      -- What the command makes are lines of output, and the cap adds no others.
      have hmem : (⟨.error, s.nextLine, text⟩ : Line) ∈
          (s.runCommand now caps.maxCommandLength.val c).value.1 :=
        mem_cutAnswer _ c _ _ (by rw [hline]; exact List.mem_singleton_self _)
      rw [runCommand, if_neg (Nat.not_lt.mpr hshort), hb] at hmem
      dsimp only at hmem
      rw [conclude, show s.handle now (.builtin b) c = s.perform now b c from rfl, ho] at hmem
      have hkind := makeLines_output _ texts _ hmem
      exact absurd hkind (by simp only [reduceCtorEq, not_false_eq_true])
  · exact refused_of_perform now raw s c b answer h hc hb

/-- A session in which nothing has happened yet. -/
def untouched : Session where
  id := "1"
  config := {}
  files := .standard {} noon
  shell := .start {}
  output := { capacity := 1000 }
  history := { capacity := 100 }

end Session

end SimTerm
