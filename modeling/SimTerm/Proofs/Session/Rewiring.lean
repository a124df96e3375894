import SimTerm.Proofs.Session.Run

/-!
# Sessions with Other Settings

What becomes of a session when its settings are exchanged while it stays
otherwise as it is.

A session holds a configuration and, apart from it, the settings that its
prompt is made from. Lines read little of either: the title of the terminal,
the caps that a line is run under, the user and the machine. Where these are
the same (`LooksAlike`), a session with other settings (`rewired`) does the
same as the one before, step by step. It gives the same answers and reports
the same events, and the sessions that are left differ in nothing but the
settings that were exchanged (`rewiring`).

For most commands that needs no more than a look at which branch they take, as
they do not read the settings at all. Only the commands that show the user or
the title do, and the steps around the commands: the caps cut an answer, and
the prompt stands in front of it.

## Main definitions

* `Config.title?`, `Config.place?`: What lines read of a configuration, besides
  the caps that they are run under.
* `rewired`: A session with other settings.
* `LooksAlike`: All that lines read of the settings is the same.
* `rewiring`: What an answer comes to in the session with other settings.

## Theorems

* `perform_rewired`: Built-in commands do the same with other settings.
* `runCommand_rewired`: So do all commands.
* `dispatch_rewired`: So does a line that is run.
* `submit_rewired`: So does a line that is entered.
-/

namespace SimTerm

/-- How the terminal calls itself, if it can say so. -/
def Config.title? (c : Config) : Option (Json × Json) :=
  c.terminal.get?.map (fun t => (t.name, t.version))

/-- The user and the machine, if the configuration names them. -/
def Config.place? (c : Config) : Option (Json × Json) :=
  c.shell.get?.map (fun s => (s.username, s.hostname))

/-- What is read of two sections is the same when it is read of both, or when
    neither is one. -/
theorem Section.get?_map_eq {α β : Type} (f : α → β) (s s' : Section α)
    (h : s.get?.map f = s'.get?.map f) :
    (∃ a a', s = .settings a ∧ s' = .settings a' ∧ f a = f a') ∨
      ∃ v v', s = .replaced v ∧ s' = .replaced v' := by
  cases s with
  | settings a =>
      cases s' with
      | settings a' => exact .inl ⟨a, a', rfl, rfl, Option.some.inj h⟩
      | replaced v' => exact absurd h (by simp only [get?, Option.map_some, Option.map_none,
          reduceCtorEq, not_false_eq_true])
  | replaced v =>
      cases s' with
      | settings a' => exact absurd h (by simp only [get?, Option.map_some, Option.map_none,
          reduceCtorEq, not_false_eq_true])
      | replaced v' => exact .inr ⟨v, v', rfl, rfl⟩

namespace Session

/-- The session with another configuration to look at and other settings for
    its prompt. -/
def rewired (s : Session) (c : Config) (shell : ShellSettings) : Session :=
  { s with config := c, shell := { s.shell with settings := shell } }

/-- A session looks alike with a configuration and settings for the prompt when
    all that is read of them while lines are entered is what it was. -/
structure LooksAlike (s : Session) (c : Config) (shell : ShellSettings) : Prop where
  /-- The name and the version of the terminal. -/
  title : c.title? = s.config.title?
  /-- The caps that a line is run under. -/
  lineCaps : c.lineCaps = s.config.lineCaps
  /-- The user and the machine. -/
  place : c.place? = s.config.place?
  /-- The user in the prompt. -/
  username : shell.username = s.shell.settings.username
  /-- The machine in the prompt. -/
  hostname : shell.hostname = s.shell.settings.hostname

/-- What an answer comes to in the session with other settings. -/
def rewiring {α : Type} (c : Config) (shell : ShellSettings) (r : α × Session) : α × Session :=
  (r.1, r.2.rewired c shell)

/-! ### Commands -/

variable (now : Moment) (cmd : Command) (s : Session) (c : Config) (shell : ShellSettings)

@[simp] theorem rewired_config : (s.rewired c shell).config = c := rfl

@[simp] theorem rewired_files : (s.rewired c shell).files = s.files := rfl

@[simp] theorem rewired_registry : (s.rewired c shell).registry = s.registry := rfl

@[simp] theorem rewired_profile : (s.rewired c shell).shell.profile = s.shell.profile := rfl

@[simp] theorem handler?_rewired (name : String) :
    (s.rewired c shell).handler? name = s.handler? name := rfl

@[simp] theorem commandOf?_rewired (raw : String) :
    (s.rewired c shell).commandOf? raw = s.commandOf? raw := rfl

@[simp] theorem answer_rewired (texts : List String) :
    (s.rewired c shell).answer texts = (s.answer texts).map (rewiring c shell) := rfl

@[simp] theorem decline_rewired (e : CommandError) :
    (s.rewired c shell).decline e = (s.decline e).map (rewiring c shell) := rfl

@[simp] theorem fileText_rewired (command path : String) :
    (s.rewired c shell).fileText command path = s.fileText command path := rfl

@[simp] theorem answerIf_rewired (texts : Except Unwritable (List String)) :
    (s.rewired c shell).answerIf texts = (s.answerIf texts).map (rewiring c shell) := by
  cases texts <;> rfl

theorem listEntries_rewired :
    (s.rewired c shell).listEntries cmd = (s.listEntries cmd).map (rewiring c shell) := by
  simp only [listEntries, rewired_files, answer_rewired, answerIf_rewired]
  split <;> rfl

theorem changeDirectory_rewired :
    (s.rewired c shell).changeDirectory cmd = (s.changeDirectory cmd).map (rewiring c shell) := by
  simp only [changeDirectory, FileSystem.changeDirectory, rewired_files, FileSystem.settle]
  cases s.files.changeDirectory? (cmd.arg 0 "/") <;> rfl

theorem makeDirectory_rewired :
    (s.rewired c shell).makeDirectory now cmd =
      (s.makeDirectory now cmd).map (rewiring c shell) := by
  simp only [makeDirectory, FileSystem.createDirectory, rewired_files, FileSystem.settle,
    decline_rewired]
  cases cmd.first? with
  | none => rfl
  | some name =>
      dsimp only
      cases !Path.isEntryName name with
      | true => rfl
      | false => cases s.files.createDirectory? now name <;> rfl

theorem touchFile_rewired :
    (s.rewired c shell).touchFile now cmd = (s.touchFile now cmd).map (rewiring c shell) := by
  simp only [touchFile, FileSystem.createFile, rewired_files, FileSystem.settle, decline_rewired]
  cases cmd.first? with
  | none => rfl
  | some name =>
      dsimp only
      cases !Path.isEntryName name with
      | true => rfl
      | false =>
          cases s.files.createFile? now name "" with
          | none =>
              rcases Bool.eq_false_or_eq_true (s.files.isDirectory name) with hdir | hdir <;>
                simp only [hdir, Bool.false_eq_true, if_false, if_true, Traced.map, rewiring]
          | some files => rfl

theorem showFile_rewired :
    (s.rewired c shell).showFile cmd = (s.showFile cmd).map (rewiring c shell) := by
  simp only [showFile, fileText_rewired, answer_rewired, decline_rewired]
  cases cmd.first? with
  | none => rfl
  | some path =>
      dsimp only
      cases s.fileText "cat" path <;> rfl

theorem chooseShell_rewired :
    (s.rewired c shell).chooseShell cmd = (s.chooseShell cmd).map (rewiring c shell) := by
  simp only [chooseShell, Shell.switch, Shell.switch?, answer_rewired, rewired_profile]
  cases cmd.first? with
  | none => rfl
  | some name =>
      dsimp only
      cases Persona.ofName? name <;> rfl

theorem sourceFile_rewired :
    (s.rewired c shell).sourceFile cmd = (s.sourceFile cmd).map (rewiring c shell) := by
  simp only [sourceFile, fileText_rewired, decline_rewired]
  cases cmd.first? with
  | none => rfl
  | some path =>
      dsimp only
      cases s.fileText "source" path <;> rfl

theorem foldl_setVariable_rewired (sh : Shell) (assignments : List (String × String)) :
    assignments.foldl (fun sh a => sh.setVariable a.1 a.2) { sh with settings := shell } =
      { assignments.foldl (fun sh a => sh.setVariable a.1 a.2) sh with settings := shell } := by
  induction assignments generalizing sh with
  | nil => rfl
  | cons a rest ih => exact ih (sh.setVariable a.1 a.2)

theorem exportVariables_rewired :
    (s.rewired c shell).exportVariables cmd = (s.exportVariables cmd).map (rewiring c shell) := by
  simp only [exportVariables, decline_rewired]
  cases cmd.args.isEmpty with
  | true => rfl
  | false =>
      cases assignmentsOf cmd.args with
      | error arg => rfl
      | ok assignments =>
          simp only [rewired, foldl_setVariable_rewired]
          rfl

theorem aliasCommand_rewired :
    (s.rewired c shell).aliasCommand cmd = (s.aliasCommand cmd).map (rewiring c shell) := by
  simp only [aliasCommand, answer_rewired, decline_rewired, rewired_profile]
  cases cmd.args.isEmpty with
  | true => rfl
  | false =>
      rcases splitAssignment cmd.remainder with ⟨before, _ | value⟩
      · rfl
      · dsimp only
        cases (trimmed before).isEmpty || (trimmed before).toList.contains ' ' <;> rfl

theorem chooseTheme_rewired :
    (s.rewired c shell).chooseTheme cmd = (s.chooseTheme cmd).map (rewiring c shell) := by
  simp only [chooseTheme, answer_rewired, decline_rewired, rewired_registry]
  cases cmd.first? with
  | none => rfl
  | some name =>
      dsimp only
      cases s.registry.theme? name <;> rfl

theorem loadTheme_rewired :
    (s.rewired c shell).loadTheme cmd = (s.loadTheme cmd).map (rewiring c shell) := by
  simp only [loadTheme, fileText_rewired, decline_rewired, rewired_registry]
  split
  case h_1 name path rest hargs =>
    cases s.fileText "load-theme" path with
    | error e => rfl
    | ok text =>
        dsimp only
        rcases Theme.read text with fault | ⟨_ | t, events⟩ <;> rfl
  case h_2 => rfl

theorem loadWorkflow_rewired :
    (s.rewired c shell).loadWorkflow cmd = (s.loadWorkflow cmd).map (rewiring c shell) := by
  simp only [loadWorkflow, fileText_rewired, decline_rewired, rewired_registry]
  cases cmd.first? with
  | none => rfl
  | some path =>
      dsimp only
      cases s.fileText "load-workflow" path with
      | error e => rfl
      | ok text =>
          dsimp only
          rcases Workflow.read text with fault | ⟨_ | w, events⟩ <;> rfl

theorem searchWorkflows_rewired (words : List String) :
    (s.rewired c shell).searchWorkflows words =
      (s.searchWorkflows words).map (rewiring c shell) := by
  simp only [searchWorkflows, rewired_registry, answer_rewired]
  split <;> rfl

theorem showWorkflows_rewired :
    (s.rewired c shell).showWorkflows cmd = (s.showWorkflows cmd).map (rewiring c shell) := by
  simp only [showWorkflows, rewired_registry, answer_rewired, searchWorkflows_rewired]
  split
  case h_1 verb word words hargs => cases lowered verb == "search" <;> rfl
  case h_2 => rfl

theorem runWorkflow_rewired :
    (s.rewired c shell).runWorkflow cmd = (s.runWorkflow cmd).map (rewiring c shell) := by
  simp only [runWorkflow, rewired_registry, answer_rewired, decline_rewired]
  split
  · rfl
  · split <;> rfl

theorem showUser_rewired (h : c.place? = s.config.place?) :
    (s.rewired c shell).showUser = s.showUser.map (rewiring c shell) := by
  unfold showUser
  rw [rewired_config]
  rcases Section.get?_map_eq _ _ _ h with ⟨a, a', hc, hs, hplace⟩ | ⟨v, v', hc, hs⟩
  · have huser : a.username = a'.username := (Prod.mk.inj hplace).1
    rw [hc, hs]
    dsimp only
    rw [huser]
    rfl
  · rw [hc, hs]
    rfl

theorem aboutTerminal_rewired (texts : String → List String) (h : c.title? = s.config.title?) :
    (s.rewired c shell).aboutTerminal texts = (s.aboutTerminal texts).map (rewiring c shell) := by
  unfold aboutTerminal
  rw [rewired_config]
  rcases Section.get?_map_eq _ _ _ h with ⟨a, a', hc, hs, htitle⟩ | ⟨v, v', hc, hs⟩
  · rcases Prod.mk.inj htitle with ⟨hname, hversion⟩
    rw [hc, hs]
    dsimp only
    rw [hname, hversion, answerIf_rewired]
  · rw [hc, hs]
    rfl

/-- A built-in command does the same with other settings that look alike. -/
theorem perform_rewired (b : Builtin) (h : LooksAlike s c shell) :
    (s.rewired c shell).perform now b cmd = (s.perform now b cmd).map (rewiring c shell) := by
  cases b with
  | listEntries => exact listEntries_rewired cmd s c shell
  | changeDirectory => exact changeDirectory_rewired cmd s c shell
  | makeDirectory => exact makeDirectory_rewired now cmd s c shell
  | touch => exact touchFile_rewired now cmd s c shell
  | showFile => exact showFile_rewired cmd s c shell
  | shell => exact chooseShell_rewired cmd s c shell
  | source => exact sourceFile_rewired cmd s c shell
  | exportVariables => exact exportVariables_rewired cmd s c shell
  | aliases => exact aliasCommand_rewired cmd s c shell
  | theme => exact chooseTheme_rewired cmd s c shell
  | loadTheme => exact loadTheme_rewired cmd s c shell
  | workflows => exact showWorkflows_rewired cmd s c shell
  | workflow => exact runWorkflow_rewired cmd s c shell
  | loadWorkflow => exact loadWorkflow_rewired cmd s c shell
  -- These are the ones that look at the configuration.
  | showUser => exact showUser_rewired s c shell h.place
  | showSystem => simp only [perform, aboutTerminal_rewired s c shell _ h.title]
  | version => simp only [perform, aboutTerminal_rewired s c shell _ h.title]
  -- And these have nothing to decide.
  | help | clear | showDirectory | date | showVariables | history | themes | styleSamples
  | stylePanel | colourTable => rfl

/-! ### Lines -/

variable {s c shell}

theorem handle_rewired (h : LooksAlike s c shell) (handler : Handler) :
    (s.rewired c shell).handle now handler cmd =
      (s.handle now handler cmd).map (rewiring c shell) := by
  cases handler with
  | builtin b => exact perform_rewired now cmd s c shell b h
  | added run => rfl

theorem conclude_rewired (e : Effect) :
    conclude cmd (e.map (rewiring c shell)) = (conclude cmd e).map (rewiring c shell) := by
  rcases e with ⟨⟨_ | _ | _, s⟩, events⟩ <;> rfl

theorem runCommand_rewired (h : LooksAlike s c shell) (longest : Nat) :
    (s.rewired c shell).runCommand now longest cmd =
      (s.runCommand now longest cmd).map (rewiring c shell) := by
  unfold runCommand
  by_cases hlong : longest < cmd.name.length
  · rw [if_pos hlong, if_pos hlong]
    rfl
  · rw [if_neg hlong, if_neg hlong, handler?_rewired]
    cases s.handler? cmd.name with
    | some handler => simp only [handle_rewired now cmd h handler, conclude_rewired]
    | none =>
        dsimp only
        cases isEcho cmd.name <;> rfl

theorem cutAnswer_rewired (limit : Nat) (answer : Traced (List Line × Session)) :
    cutAnswer limit cmd (answer.map (rewiring c shell)) =
      (cutAnswer limit cmd answer).map (rewiring c shell) := by
  unfold cutAnswer
  by_cases hcut : limit < answer.value.1.length
  · have hcut' : limit < (answer.map (rewiring c shell)).value.1.length := hcut
    rw [if_pos hcut, if_pos hcut']
    rfl
  · have hcut' : ¬ limit < (answer.map (rewiring c shell)).value.1.length := hcut
    rw [if_neg hcut, if_neg hcut']

/-- A line that is run does the same with other settings that look alike. -/
theorem dispatch_rewired (h : LooksAlike s c shell) (raw : String) :
    (s.rewired c shell).dispatch now raw =
      (s.dispatch now raw).map (Traced.map (rewiring c shell)) := by
  unfold dispatch
  rw [commandOf?_rewired, rewired_config]
  cases s.commandOf? raw with
  | none => rfl
  | some cmd =>
      rw [h.lineCaps]
      cases s.config.lineCaps with
      | error f => rfl
      | ok caps => simp only [Except.map, runCommand_rewired now cmd h, cutAnswer_rewired]

@[simp] theorem rewired_id : (s.rewired c shell).id = s.id := by
  simp only [rewired]

@[simp] theorem rewired_clearRequested :
    (s.rewired c shell).clearRequested = s.clearRequested := by
  simp only [rewired]

theorem remember_rewired (raw : String) :
    (s.rewired c shell).remember raw = (s.remember raw).rewired c shell := by
  simp only [remember, rewired]

theorem cleared_rewired : (s.rewired c shell).cleared = s.cleared.rewired c shell := by
  simp only [cleared, rewired]

theorem record_rewired (prompt raw : String) (answer : List Line) :
    (s.rewired c shell).record prompt raw answer =
      rewiring c shell (s.record prompt raw answer) := by
  simp only [record, number, rewired, rewiring]

/-- A line that is entered does the same with other settings that look alike. -/
theorem submit_rewired (h : LooksAlike s c shell) (raw : String) :
    (s.rewired c shell).submit now raw = (s.submit now raw).map (rewiring c shell) := by
  -- What is forgotten before a line is run is not part of the looks.
  have hready : LooksAlike s.ready c shell := ⟨h.1, h.2, h.3, h.4, h.5⟩
  have hplace : (s.rewired c shell).shell.place = s.shell.place := by
    simp only [Shell.place, rewired, h.username, h.hostname]
  have hprompt : (s.rewired c shell).prompt = s.prompt := by
    rw [prompt, prompt, Shell.prompt, Shell.prompt, hplace]
    rfl
  have hdispatch : dispatch now raw { s.rewired c shell with clearRequested := false } =
      (dispatch now raw { s with clearRequested := false }).map (Traced.map (rewiring c shell)) :=
    dispatch_rewired now hready raw
  unfold submit
  rw [hprompt]
  cases s.prompt with
  | error u => rfl
  | ok prompt =>
  simp only [submitAt, hdispatch]
  rcases dispatch now raw { s with clearRequested := false } with f | ⟨⟨answer, after⟩, events⟩
  · rfl
  · simp only [Except.map, Traced.map, rewiring]
    rw [remember_rewired]
    cases hclear : (after.remember raw).clearRequested with
    | true => simp only [rewired_clearRequested, hclear, if_true, cleared_rewired, rewired_id]
    | false =>
        simp only [rewired_clearRequested, hclear, Bool.false_eq_true, if_false, record_rewired,
          rewiring]

end Session

end SimTerm
