import SimTerm.Proofs.Session.Run

/-!
# Lines that Fail

A line that fails changes nothing.

An error line comes from four places: a name that is too long, a name that
nothing is known of, a command that refuses and a command that breaks off.
Each of them makes exactly one line and takes one number for it, and that is
all that is left in the session (`Refused`). The first two do not get as far
as a command. For the other two it is `ending_eq_of_not_lines`.

The converse is the part that needs every command: no command that makes
output makes an error line, so an error line among the answer, whatever it
says and wherever it stands, is one of the four (`runCommand_cases`). The cap
on an answer does not come into it, since it lets at least one line through.

Which lines fail is then a question about single commands. It is answered for
the ones that change something in several steps or from outside: variables are
set all or none, and nothing is stored from a file that is no record.

## Main definitions

* `Refused`: An answer that is one error line and has changed nothing.
* `LoadsTheme`, `LoadsWorkflow`: A command names a file that can be stored.
* `withVariable`: A session in which a variable was set.

## Theorems

* `runCommand_cases`: An answer without output is a refusal.
* `refused_of_perform`: A command that ends without lines is a refusal.
* `refusal_changes_nothing`: A line that fails changes nothing, in every state
  of every run.
* `refused_after_export`: The same in a session in which a variable was set.
-/

namespace SimTerm

namespace Session

/-- An answer that is one error line. The session is the one from before but
    for the number of the next line. -/
structure Refused (s : Session) (answer : Traced (List Line × Session)) : Prop where
  /-- There is one line. -/
  line : ∃ text, answer.value.1 = [⟨.error, s.nextLine, text⟩]
  /-- Its number is used up. -/
  session : answer.value.2 = { s with nextLine := s.nextLine + 1 }

/-- A command gives a name to a file with a theme. -/
def LoadsTheme (s : Session) (c : Command) : Prop :=
  ∃ name path rest text t events, c.args = name :: path :: rest ∧
    s.files.read? path = some text ∧ Theme.read text = .ok ⟨some t, events⟩

/-- A command names a file with a workflow. -/
def LoadsWorkflow (s : Session) (c : Command) : Prop :=
  ∃ path text w events, c.first? = some path ∧
    s.files.read? path = some text ∧ Workflow.read text = .ok ⟨some w, events⟩

/-! ### One line -/

theorem makeLines_output (start : Nat) (texts : List Json) (l : Line)
    (hl : l ∈ makeLines .output start texts) : l.kind = .output := by
  induction texts generalizing start with
  | nil => exact absurd hl List.not_mem_nil
  | cons text rest ih =>
      rcases List.mem_cons.mp hl with h | h
      · rw [h]
      · exact ih (start + 1) h

/-- A line that is made for an error is a refusal. -/
theorem refused_number (s : Session) (text : Json) (events : List Event) :
    Refused s ⟨s.number .error [text], events⟩ :=
  ⟨⟨text, rfl⟩, rfl⟩

/-- A command that ended without lines and without a change is a refusal. -/
theorem refused_conclude (s : Session) (c : Command) (e : Effect) (hs : e.value.2 = s)
    (ho : ∀ texts, e.value.1 ≠ .lines texts) : Refused s (conclude c e) := by
  unfold conclude
  rw [hs]
  cases h : e.value.1 with
  | lines texts => exact absurd h (ho texts)
  | refused err => exact refused_number s _ _
  | broke => exact refused_number s _ _

/-- What runs under a name has changed nothing when it ends without lines. -/
theorem handle_eq_of_not_lines (now : Moment) (h : Handler) (c : Command) (s : Session)
    (ho : ∀ texts, (s.handle now h c).value.1 ≠ .lines texts) :
    (s.handle now h c).value.2 = s := by
  cases h with
  | builtin b => exact ending_eq_of_not_lines (perform_ending now c s b) ho
  | added run => rfl

/-- What runs under a name makes output or is a refusal. -/
theorem conclude_cases (now : Moment) (h : Handler) (c : Command) (s : Session) :
    (∀ l ∈ (conclude c (s.handle now h c)).value.1, l.kind = .output) ∨
      Refused s (conclude c (s.handle now h c)) := by
  by_cases hlines : ∃ texts, (s.handle now h c).value.1 = .lines texts
  · rcases hlines with ⟨texts, ho⟩
    left
    intro l hl
    unfold conclude at hl
    rw [ho] at hl
    exact makeLines_output _ texts l hl
  · right
    have ho : ∀ texts, (s.handle now h c).value.1 ≠ .lines texts := not_exists.mp hlines
    exact refused_conclude s c _ (handle_eq_of_not_lines now h c s ho) ho

/-- The answer to a command is output or a refusal. -/
theorem runCommand_cases (now : Moment) (longest : Nat) (c : Command) (s : Session) :
    (∀ l ∈ (s.runCommand now longest c).value.1, l.kind = .output) ∨
      Refused s (s.runCommand now longest c) := by
  unfold runCommand
  by_cases hlong : longest < c.name.length
  · rw [if_pos hlong]
    exact .inr (refused_number s _ _)
  · rw [if_neg hlong]
    cases s.handler? c.name with
    | some h => exact conclude_cases now h c s
    | none =>
        by_cases hecho : isEcho c.name = true
        · simp only [if_pos hecho]
          exact .inl (makeLines_output _ _)
        · simp only [if_neg hecho]
          exact .inr (refused_number s _ _)

/-! ### The cap -/

theorem mem_cutAnswer (limit : Nat) (c : Command) (answer : Traced (List Line × Session))
    (l : Line) (hl : l ∈ (cutAnswer limit c answer).value.1) : l ∈ answer.value.1 := by
  unfold cutAnswer at hl
  dsimp only at hl
  by_cases hcut : limit < answer.value.1.length
  · rw [if_pos hcut] at hl
    exact List.mem_of_mem_take hl
  · rw [if_neg hcut] at hl
    exact hl

/-- A single line is not cut off. -/
theorem cutAnswer_of_refused (limit : Nat) (hlimit : 0 < limit) (c : Command) (s : Session)
    (answer : Traced (List Line × Session)) (h : Refused s answer) :
    cutAnswer limit c answer = answer := by
  rcases h.line with ⟨text, hline⟩
  unfold cutAnswer
  dsimp only
  rw [if_neg]
  rw [hline, List.length_singleton]
  omega

/-- An error line in the answer to a line is a refusal. -/
theorem refused_of_error (now : Moment) (raw : String) (s : Session)
    (answer : Traced (List Line × Session)) (h : s.dispatch now raw = .ok answer)
    (herror : ∃ l ∈ answer.value.1, l.kind = .error) : Refused s answer := by
  rcases herror with ⟨l, hl, hkind⟩
  rcases dispatch_cases now raw s answer h with ⟨_, hanswer⟩ | ⟨c, caps, _, _, hanswer⟩
  · rw [hanswer] at hl
    exact absurd hl List.not_mem_nil
  · rw [hanswer] at hl ⊢
    -- The cap makes no lines, so the error line was there before it.
    rcases runCommand_cases now caps.maxCommandLength.val c s with hout | href
    · have := hout l (mem_cutAnswer _ c _ l hl)
      rw [hkind] at this
      exact LineKind.noConfusion this
    · rw [cutAnswer_of_refused _ caps.maxDispatchLines.pos c s _ href]
      exact href

/-! ### Single commands -/

/-- A line that calls a built-in command which ends without lines is a
    refusal, and so it is if the cap on names does not let the command run. -/
theorem refused_of_perform (now : Moment) (raw : String) (s : Session) (c : Command)
    (b : Builtin) (answer : Traced (List Line × Session))
    (h : s.dispatch now raw = .ok answer) (hc : s.commandOf? raw = some c)
    (hb : s.handler? c.name = some (.builtin b))
    (ho : ∀ texts, (s.perform now b c).value.1 ≠ .lines texts) : Refused s answer := by
  rcases dispatch_cases now raw s answer h with ⟨hnone, _⟩ | ⟨c', caps, hc', _, hanswer⟩
  · rw [hnone] at hc
    exact absurd hc (by simp only [reduceCtorEq, not_false_eq_true])
  · rw [hc] at hc'
    cases Option.some.inj hc'
    have href : Refused s (s.runCommand now caps.maxCommandLength.val c) := by
      unfold runCommand
      by_cases hlong : caps.maxCommandLength.val < c.name.length
      · rw [if_pos hlong]
        exact refused_number s _ _
      · rw [if_neg hlong, hb]
        exact refused_conclude s c _ (ending_eq_of_not_lines (perform_ending now c s b) ho) ho
    rw [hanswer, cutAnswer_of_refused _ caps.maxDispatchLines.pos c s _ href]
    exact href

theorem assignmentsOf_error (args : List String) (h : ∃ arg ∈ args, assignment? arg = none) :
    ∃ bad, assignmentsOf args = .error bad := by
  induction args with
  | nil =>
      rcases h with ⟨arg, harg, _⟩
      exact absurd harg List.not_mem_nil
  | cons first rest ih =>
      unfold assignmentsOf
      cases hfirst : assignment? first with
      | none => exact ⟨first, rfl⟩
      | some a =>
          -- The bad argument is further on.
          rcases h with ⟨arg, harg, hbad⟩
          rcases List.mem_cons.mp harg with heq | hrest
          · rw [heq, hfirst] at hbad
            exact absurd hbad (by simp only [reduceCtorEq, not_false_eq_true])
          · rcases ih ⟨arg, hrest, hbad⟩ with ⟨bad, hrec⟩
            exact ⟨bad, by rw [hrec]; rfl⟩

/-- Variables are not set when an argument writes none. -/
theorem exportVariables_not_lines (c : Command) (s : Session)
    (h : ∃ arg ∈ c.args, assignment? arg = none) (texts : List Json) :
    (s.exportVariables c).value.1 ≠ .lines texts := by
  rcases assignmentsOf_error c.args h with ⟨bad, herror⟩
  have hargs : ¬ c.args.isEmpty = true := by
    rcases h with ⟨arg, harg, _⟩
    rw [List.isEmpty_iff]
    exact List.ne_nil_of_mem harg
  unfold exportVariables
  rw [if_neg hargs, herror]
  exact Outcome.noConfusion

/-- A theme is stored only from a file with one. -/
theorem loadTheme_not_lines (now : Moment) (c : Command) (s : Session) (h : ¬ s.LoadsTheme c)
    (texts : List Json) : (s.perform now .loadTheme c).value.1 ≠ .lines texts := by
  intro ho
  have hend := perform_ending now c s .loadTheme
  rw [ho] at hend
  generalize (s.perform now .loadTheme c).value.2 = s' at hend
  -- It does not go through without a change, and has only one to make.
  cases hend with
  | answered _ _ hb => exact absurd hb Bool.false_ne_true
  | themeStored name path rest text t events _ hargs hpath hread =>
      exact h ⟨name, path, rest, text, t, events, hargs, hpath, hread⟩

/-- A workflow is stored only from a file with one. -/
theorem loadWorkflow_not_lines (now : Moment) (c : Command) (s : Session)
    (h : ¬ s.LoadsWorkflow c) (texts : List Json) :
    (s.perform now .loadWorkflow c).value.1 ≠ .lines texts := by
  intro ho
  have hend := perform_ending now c s .loadWorkflow
  rw [ho] at hend
  generalize (s.perform now .loadWorkflow c).value.2 = s' at hend
  cases hend with
  | answered _ _ hb => exact absurd hb Bool.false_ne_true
  | workflowStored path text w events _ hname hpath hread =>
      exact h ⟨path, text, w, events, hname, hpath, hread⟩

/-- A line that fails changes nothing but the number of the next line: not if
    its answer has an error line, not if it exports anything that is no
    assignment, and not if it loads from a file that holds no record. -/
theorem refusal_changes_nothing (s : Session) (hs : s.Reachable) (now : Moment) (raw : String)
    (answer : Traced (List Line × Session)) (h : s.dispatch now raw = .ok answer) :
    ((∃ l ∈ answer.value.1, l.kind = .error) → Refused s answer) ∧
      ∀ c, s.commandOf? raw = some c →
        (c.name = "export" → (∃ arg ∈ c.args, assignment? arg = none) → Refused s answer) ∧
        (c.name = "load-theme" → ¬ s.LoadsTheme c → Refused s answer) ∧
        (c.name = "load-workflow" → ¬ s.LoadsWorkflow c → Refused s answer) := by
  refine ⟨refused_of_error now raw s answer h, fun c hc => ⟨?_, ?_, ?_⟩⟩
  · intro hname hbad
    refine refused_of_perform now raw s c .exportVariables answer h hc ?_
      (exportVariables_not_lines c s hbad)
    rw [hname]
    exact hs.handler?_builtin s .exportVariables
  · intro hname hbad
    refine refused_of_perform now raw s c .loadTheme answer h hc ?_
      (loadTheme_not_lines now c s hbad)
    rw [hname]
    exact hs.handler?_builtin s .loadTheme
  · intro hname hbad
    refine refused_of_perform now raw s c .loadWorkflow answer h hc ?_
      (loadWorkflow_not_lines now c s hbad)
    rw [hname]
    exact hs.handler?_builtin s .loadWorkflow

/-- A moment to run lines at. -/
def noon : Moment := ⟨2024, 3, 5, 12, 0, 0⟩

/-- A session in which a variable was set. -/
def withVariable : Session :=
  run { id := "1", config := {}, files := .standard {} noon, shell := .start {},
        output := { capacity := 1000 }, history := { capacity := 100 } }
    [.submit noon "export A=1"]

/-- The answer of that session when a command fails with a message. -/
def failure (name : String) (code : Int) (message : String) : Traced (List Line × Session) :=
  ⟨([⟨.error, 2, .str message⟩], { withVariable with nextLine := 3 }),
    [.commandFailed "1" name code]⟩

/-- A variable was set. After that a line with one bad argument does not set
    it anew, and a file that is not there is not loaded. -/
theorem refused_after_export :
    (withVariable.shell.valueOf? "A" = some "1" ∧ withVariable.Reachable) ∧
      (∃ answer, withVariable.dispatch noon "export A=2 B" = .ok answer ∧
        Refused withVariable answer) ∧
      (∃ answer, withVariable.dispatch noon "load-theme t none.yml" = .ok answer ∧
        Refused withVariable answer) ∧
      ∃ answer, withVariable.dispatch noon "load-workflow none.yml" = .ok answer ∧
        Refused withVariable answer := by
  have hs : withVariable.Reachable :=
    ⟨"1", {}, false, noon, _, [.submit noon "export A=1"], by rfl, by rfl⟩
  have hexport : withVariable.dispatch noon "export A=2 B" =
      .ok (failure "export" 4002 "export: B: not a valid identifier") := by rfl
  have htheme : withVariable.dispatch noon "load-theme t none.yml" =
      .ok (failure "load-theme" 4001 "load-theme: none.yml: No such file or directory") := by rfl
  have hworkflow : withVariable.dispatch noon "load-workflow none.yml" =
      .ok (failure "load-workflow" 4001 "load-workflow: none.yml: No such file or directory") := by
    rfl
  have hread : withVariable.files.read? "none.yml" = none := by rfl
  refine ⟨⟨by rfl, hs⟩, ⟨_, hexport, ?_⟩, ⟨_, htheme, ?_⟩, ⟨_, hworkflow, ?_⟩⟩
  · refine ((refusal_changes_nothing withVariable hs noon _ _ hexport).2
      { name := "export", args := ["A=2", "B"], line := "export A=2 B", remainder := "A=2 B" }
      (by rfl)).1 rfl ⟨"B", by decide, by rfl⟩
  · refine ((refusal_changes_nothing withVariable hs noon _ _ htheme).2
      { name := "load-theme", args := ["t", "none.yml"], line := "load-theme t none.yml",
        remainder := "t none.yml" } (by rfl)).2.1 rfl ?_
    rintro ⟨name, path, rest, text, t, events, hargs, hpath, _⟩
    cases hargs
    rw [hread] at hpath
    exact absurd hpath (by simp only [reduceCtorEq, not_false_eq_true])
  · -- Here the error line is there to see.
    exact (refusal_changes_nothing withVariable hs noon _ _ hworkflow).1
      ⟨_, List.mem_singleton_self _, rfl⟩

end Session

end SimTerm
