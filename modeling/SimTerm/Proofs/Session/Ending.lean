import SimTerm.Session.Submission

/-!
# How Built-in Commands End

Everything that a built-in command can do to a session, said once.

A command that goes through may make one change, and there is a constructor of
`Ending` for each of those changes, with the step that made it and what that
step needed to go through. A command that refuses or breaks off has a
constructor of its own, and there the session is the one it started from. So
that a failed command has changed nothing is visible in the type, and
`ending_eq_of_not_lines` reads it off.

The commands themselves are looked at in `perform_ending` and nowhere else.
What holds of all of them is a case analysis over the constructors.

## Main definitions

* `Builtin.mayKeep`: Whether a command can go through without a change.
* `Ending`: How a built-in command can end.
* `Framed`: What no command changes.

## Theorems

* `perform_ending`: Every built-in command ends like that.
* `ending_eq_of_not_lines`: Without lines there is no change.
* `ending_texts`: The lines are texts.
* `ending_frame`: No built-in command touches what stands in the frame.
-/

namespace SimTerm

/-- Whether a built-in command can go through without a change. -/
def Builtin.mayKeep : Builtin → Bool
  | .clear | .changeDirectory | .makeDirectory | .source | .loadTheme | .loadWorkflow => false
  | _ => true

namespace Session

/-- How a built-in command can end, with what outcome and in what session. -/
inductive Ending (now : Moment) (c : Command) (s : Session) :
    Builtin → Outcome → Session → Prop where
  /-- It has refused. -/
  | refused (b : Builtin) (e : CommandError) : Ending now c s b (.refused e) s
  /-- It has broken off. -/
  | broke (b : Builtin) : Ending now c s b .broke s
  /-- It went through and nothing has changed. -/
  | answered (b : Builtin) (texts : List String) (hb : b.mayKeep = true) :
      Ending now c s b (.texts texts) s
  /-- The user was shown, who may be any value. -/
  | userShown (shell : ShellSettings) (h : s.config.shell = .settings shell) :
      Ending now c s .showUser (.lines [shell.username]) s
  /-- An empty screen was asked for. -/
  | cleared : Ending now c s .clear (.texts []) { s with clearRequested := true }
  /-- Another directory is the current one. -/
  | moved (files : FileSystem) (h : s.files.changeDirectory? (c.arg 0 "/") = some files) :
      Ending now c s .changeDirectory (.texts []) (s.withFiles files)
  /-- There is a new directory. -/
  | directoryMade (name : String) (files : FileSystem) (hname : c.first? = some name)
      (h : s.files.createDirectory? now name = some files) :
      Ending now c s .makeDirectory (.texts []) (s.withFiles files)
  /-- There is a new empty file. -/
  | fileMade (name : String) (files : FileSystem) (hname : c.first? = some name)
      (h : s.files.createFile? now name "" = some files) :
      Ending now c s .touch (.texts []) (s.withFiles files)
  /-- Another persona is the active one. -/
  | switched (name : String) (shell : Shell) (texts : List String) (hname : c.first? = some name)
      (h : s.shell.switch? name = some shell) :
      Ending now c s .shell (.texts texts) (s.withShell shell)
  /-- A shell configuration was read. -/
  | sourced (path text : String) (texts : List String) (hpath : c.first? = some path)
      (h : s.files.read? path = some text) :
      Ending now c s .source (.texts texts) (s.withShell (s.shell.load text).value.2)
  /-- Variables were set. -/
  | exported (assignments : List (String × String))
      (h : assignmentsOf c.args = .ok assignments) :
      Ending now c s .exportVariables (.texts [])
        (s.withShell (assignments.foldl (fun sh a => sh.setVariable a.1 a.2) s.shell))
  /-- An alias was defined. -/
  | aliased (before value : String) (h : splitAssignment c.remainder = (before, some value))
      (hname : ((trimmed before).isEmpty || (trimmed before).toList.contains ' ') = false) :
      Ending now c s .aliases (.texts [])
        (s.withShell (s.shell.setAlias (trimmed before) (stripQuotes (trimmed value))))
  /-- Another theme is the active one. -/
  | themed (name : String) (t : Theme) (texts : List String) (hname : c.first? = some name)
      (h : s.registry.theme? name = some t) :
      Ending now c s .theme (.texts texts) { s with theme := lowered name }
  /-- A theme was stored. -/
  | themeStored (name path : String) (rest : List String) (text : String) (t : Theme)
      (events : List Event) (texts : List String) (hargs : c.args = name :: path :: rest)
      (hpath : s.files.read? path = some text) (h : Theme.read text = .ok ⟨some t, events⟩) :
      Ending now c s .loadTheme (.texts texts) (s.withRegistry (s.registry.addTheme name t).value)
  /-- A workflow was stored. -/
  | workflowStored (path text : String) (w : Workflow) (events : List Event)
      (texts : List String) (hname : c.first? = some path)
      (hpath : s.files.read? path = some text) (h : Workflow.read text = .ok ⟨some w, events⟩) :
      Ending now c s .loadWorkflow (.texts texts) (s.withRegistry (s.registry.store w))

/-- What no command changes: a line that runs leaves it for the terminal around it. -/
structure Framed (s s' : Session) : Prop where
  /-- The name of the session. -/
  id : s'.id = s.id
  /-- The configuration. -/
  config : s'.config = s.config
  /-- Whether it is kept up to date. -/
  isWatching : s'.isWatching = s.isWatching
  /-- The output. -/
  output : s'.output = s.output
  /-- The history. -/
  history : s'.history = s.history
  /-- The pen. -/
  pen : s'.pen = s.pen
  /-- What runs under a name. -/
  handlers : s'.handlers = s.handlers

/-- The text that a command reads is the text of a file. -/
theorem read?_of_fileText (s : Session) (command path text : String)
    (h : s.fileText command path = .ok text) : s.files.read? path = some text := by
  unfold fileText at h
  cases hread : s.files.read? path with
  | none => rw [hread] at h; exact absurd h (by simp only [reduceCtorEq, not_false_eq_true])
  | some text' =>
      rw [hread] at h
      rw [Except.ok.inj h]

variable (now : Moment) (c : Command) (s : Session)

/-! ### Commands that change something -/

theorem changeDirectory_ending :
    Ending now c s .changeDirectory (s.changeDirectory c).value.1 (s.changeDirectory c).value.2 := by
  unfold changeDirectory FileSystem.changeDirectory
  cases h : s.files.changeDirectory? (c.arg 0 "/") with
  | none =>
      simp only [FileSystem.settle, Traced.map, h]
      exact .refused _ _
  | some files =>
      simp only [FileSystem.settle, Traced.map, h, if_true]
      exact .moved files h

theorem makeDirectory_ending :
    Ending now c s .makeDirectory (s.makeDirectory now c).value.1
      (s.makeDirectory now c).value.2 := by
  unfold makeDirectory FileSystem.createDirectory
  cases hname : c.first? with
  | none => exact .refused _ _
  | some name =>
      by_cases hvalid : (!Path.isEntryName name) = true
      · simp only [if_pos hvalid]
        exact .refused _ _
      · simp only [if_neg hvalid]
        cases h : s.files.createDirectory? now name with
        | none =>
            simp only [FileSystem.settle, Traced.map]
            exact .refused _ _
        | some files =>
            simp only [FileSystem.settle, Traced.map, if_true]
            exact .directoryMade name files hname h

theorem touchFile_ending :
    Ending now c s .touch (s.touchFile now c).value.1 (s.touchFile now c).value.2 := by
  unfold touchFile FileSystem.createFile
  cases hname : c.first? with
  | none => exact .refused _ _
  | some name =>
      by_cases hvalid : (!Path.isEntryName name) = true
      · simp only [if_pos hvalid]
        exact .refused _ _
      · simp only [if_neg hvalid]
        cases h : s.files.createFile? now name "" with
        | none =>
            simp only [FileSystem.settle, Traced.map]
            -- A file of that name is left alone, a directory is refused.
            by_cases hdir : s.files.isDirectory name = true
            · simp only [Bool.false_eq_true, if_false, if_pos hdir]
              exact .refused _ _
            · simp only [Bool.false_eq_true, if_false, if_neg hdir]
              exact .answered _ _ rfl
        | some files =>
            simp only [FileSystem.settle, Traced.map, if_true]
            exact .fileMade name files hname h

theorem chooseShell_ending :
    Ending now c s .shell (s.chooseShell c).value.1 (s.chooseShell c).value.2 := by
  unfold chooseShell Shell.switch
  cases hname : c.first? with
  | none => exact .answered _ _ rfl
  | some name =>
      cases h : s.shell.switch? name with
      | none =>
          simp only [Traced.map, h]
          exact .refused _ _
      | some shell =>
          simp only [Traced.map, h, if_true]
          exact .switched name shell _ hname h

theorem sourceFile_ending :
    Ending now c s .source (s.sourceFile c).value.1 (s.sourceFile c).value.2 := by
  unfold sourceFile
  cases hpath : c.first? with
  | none => exact .refused _ _
  | some path =>
      cases h : s.fileText "source" path with
      | error e =>
          simp only [h]
          exact .refused _ _
      | ok text =>
          simp only [h, Traced.map]
          exact .sourced path text _ hpath (s.read?_of_fileText _ _ _ h)

theorem exportVariables_ending :
    Ending now c s .exportVariables (s.exportVariables c).value.1
      (s.exportVariables c).value.2 := by
  unfold exportVariables
  by_cases hargs : c.args.isEmpty = true
  · rw [if_pos hargs]
    exact .answered _ _ rfl
  · rw [if_neg hargs]
    cases h : assignmentsOf c.args with
    | error arg => exact .refused _ _
    | ok assignments => exact .exported assignments h

theorem aliasCommand_ending :
    Ending now c s .aliases (s.aliasCommand c).value.1 (s.aliasCommand c).value.2 := by
  unfold aliasCommand
  by_cases hargs : c.args.isEmpty = true
  · rw [if_pos hargs]
    exact .answered _ _ rfl
  · rw [if_neg hargs]
    rcases h : splitAssignment c.remainder with ⟨before, _ | value⟩
    · exact .refused _ _
    · dsimp only
      -- What cannot be the first word of a line cannot be an alias.
      cases hname : (trimmed before).isEmpty || (trimmed before).toList.contains ' ' with
      | true =>
          rw [if_pos rfl]
          exact .refused _ _
      | false =>
          rw [if_neg Bool.false_ne_true]
          exact .aliased before value h hname

theorem chooseTheme_ending :
    Ending now c s .theme (s.chooseTheme c).value.1 (s.chooseTheme c).value.2 := by
  unfold chooseTheme
  cases hname : c.first? with
  | none => exact .answered _ _ rfl
  | some name =>
      cases h : s.registry.theme? name with
      | none =>
          simp only [h]
          exact .refused _ _
      | some t =>
          simp only [h]
          exact .themed name t _ hname h

theorem loadTheme_ending :
    Ending now c s .loadTheme (s.loadTheme c).value.1 (s.loadTheme c).value.2 := by
  unfold loadTheme
  split
  case h_1 name path rest hargs =>
    cases hpath : s.fileText "load-theme" path with
    | error e => exact .refused _ _
    | ok text =>
        -- No document breaks the command off, no theme makes it refuse.
        rcases h : Theme.read text with fault | ⟨_ | t, events⟩
        · simp only [h]
          exact .broke _
        · simp only [h]
          exact .refused _ _
        · simp only [h]
          exact .themeStored name path rest text t events _ hargs
            (s.read?_of_fileText _ _ _ hpath) h
  case h_2 => exact .refused _ _

theorem loadWorkflow_ending :
    Ending now c s .loadWorkflow (s.loadWorkflow c).value.1 (s.loadWorkflow c).value.2 := by
  unfold loadWorkflow
  cases hname : c.first? with
  | none => exact .refused _ _
  | some path =>
      cases hpath : s.fileText "load-workflow" path with
      | error e =>
          simp only [hpath]
          exact .refused _ _
      | ok text =>
          rcases h : Workflow.read text with fault | ⟨_ | w, events⟩
          · simp only [hpath, h]
            exact .broke _
          · simp only [hpath, h]
            exact .refused _ _
          · simp only [hpath, h]
            exact .workflowStored path text w events _ hname (s.read?_of_fileText _ _ _ hpath) h

/-! ### Commands that only look -/

theorem answerIf_ending (b : Builtin) (hb : b.mayKeep = true)
    (texts : Except Unwritable (List String)) :
    Ending now c s b (s.answerIf texts).value.1 (s.answerIf texts).value.2 := by
  cases texts with
  | ok texts => exact .answered b texts hb
  | error u => exact .broke b

theorem listEntries_ending :
    Ending now c s .listEntries (s.listEntries c).value.1 (s.listEntries c).value.2 := by
  unfold listEntries
  dsimp only
  split
  · exact .answered _ _ rfl
  · exact answerIf_ending now c s _ rfl _

theorem showFile_ending :
    Ending now c s .showFile (s.showFile c).value.1 (s.showFile c).value.2 := by
  unfold showFile
  split
  · exact .refused _ _
  · split
    · exact .refused _ _
    · exact .answered _ _ rfl

theorem showUser_ending : Ending now c s .showUser s.showUser.value.1 s.showUser.value.2 := by
  unfold showUser
  split
  next shell hshell => exact .userShown shell hshell
  next => exact .broke _

theorem aboutTerminal_ending (b : Builtin) (hb : b.mayKeep = true) (texts : String → List String) :
    Ending now c s b (s.aboutTerminal texts).value.1 (s.aboutTerminal texts).value.2 := by
  unfold aboutTerminal
  split
  · exact answerIf_ending now c s b hb _
  · exact .broke b

theorem searchWorkflows_ending (words : List String) :
    Ending now c s .workflows (s.searchWorkflows words).value.1
      (s.searchWorkflows words).value.2 := by
  unfold searchWorkflows
  dsimp only
  split <;> exact .answered _ _ rfl

theorem showWorkflows_ending :
    Ending now c s .workflows (s.showWorkflows c).value.1 (s.showWorkflows c).value.2 := by
  unfold showWorkflows
  dsimp only
  split
  case h_1 verb word words _ =>
    by_cases hverb : (lowered verb == "search") = true
    · rw [if_pos hverb]
      exact searchWorkflows_ending now c s (word :: words)
    · rw [if_neg hverb]
      exact .answered _ _ rfl
  case h_2 => exact .answered _ _ rfl

theorem runWorkflow_ending :
    Ending now c s .workflow (s.runWorkflow c).value.1 (s.runWorkflow c).value.2 := by
  unfold runWorkflow
  dsimp only
  split
  · exact .refused _ _
  · split
    · exact .refused _ _
    · exact .answered _ _ rfl

/-! ### All commands -/

/-- Every built-in command ends in one of the ways. -/
theorem perform_ending (b : Builtin) :
    Ending now c s b (s.perform now b c).value.1 (s.perform now b c).value.2 := by
  cases b with
  | clear => exact .cleared
  | changeDirectory => exact changeDirectory_ending now c s
  | makeDirectory => exact makeDirectory_ending now c s
  | touch => exact touchFile_ending now c s
  | shell => exact chooseShell_ending now c s
  | source => exact sourceFile_ending now c s
  | exportVariables => exact exportVariables_ending now c s
  | aliases => exact aliasCommand_ending now c s
  | theme => exact chooseTheme_ending now c s
  | loadTheme => exact loadTheme_ending now c s
  | loadWorkflow => exact loadWorkflow_ending now c s
  -- These read the session and say something about it.
  | listEntries => exact listEntries_ending now c s
  | showFile => exact showFile_ending now c s
  | showUser => exact showUser_ending now c s
  | showSystem => exact aboutTerminal_ending now c s _ rfl _
  | version => exact aboutTerminal_ending now c s _ rfl _
  | workflows => exact showWorkflows_ending now c s
  | workflow => exact runWorkflow_ending now c s
  -- And these do not even fail.
  | help => exact .answered _ _ rfl
  | showDirectory => exact .answered _ _ rfl
  | date => exact .answered _ _ rfl
  | showVariables => exact .answered _ _ rfl
  | history => exact .answered _ _ rfl
  | themes => exact .answered _ _ rfl
  | styleSamples => exact .answered _ _ rfl
  | stylePanel => exact .answered _ _ rfl
  | colourTable => exact .answered _ _ rfl

variable {now c s}

/-- A command that ends without lines has changed nothing. -/
theorem ending_eq_of_not_lines {b : Builtin} {o : Outcome} {s' : Session}
    (h : Ending now c s b o s') (ho : ∀ texts, o ≠ .lines texts) : s' = s := by
  cases h with
  | refused => rfl
  | broke => rfl
  -- All the others end with lines.
  | answered => exact absurd rfl (ho _)
  | userShown => exact absurd rfl (ho _)
  | cleared => exact absurd rfl (ho _)
  | moved => exact absurd rfl (ho _)
  | directoryMade => exact absurd rfl (ho _)
  | fileMade => exact absurd rfl (ho _)
  | switched => exact absurd rfl (ho _)
  | sourced => exact absurd rfl (ho _)
  | exported => exact absurd rfl (ho _)
  | aliased => exact absurd rfl (ho _)
  | themed => exact absurd rfl (ho _)
  | themeStored => exact absurd rfl (ho _)
  | workflowStored => exact absurd rfl (ho _)

/-- What a command ends with are texts, unless it shows the user, who may be any
    value. -/
theorem ending_texts {b : Builtin} {o : Outcome} {s' : Session} (h : Ending now c s b o s')
    (texts : List Json) (ho : o = .lines texts) :
    (∃ ts : List String, texts = ts.map Json.str) ∨
      ∃ shell, s.config.shell = .settings shell ∧ texts = [shell.username] := by
  cases h with
  | refused => exact absurd ho Outcome.noConfusion
  | broke => exact absurd ho Outcome.noConfusion
  | userShown shell h => exact .inr ⟨shell, h, (Outcome.lines.inj ho).symm⟩
  | _ => exact .inl ⟨_, (Outcome.lines.inj ho).symm⟩

/-- No built-in command touches what stands in the frame, and none makes lines. -/
theorem ending_frame {b : Builtin} {o : Outcome} {s' : Session} (h : Ending now c s b o s') :
    Framed s s' ∧ s'.nextLine = s.nextLine := by
  cases h <;> exact ⟨⟨rfl, rfl, rfl, rfl, rfl, rfl, rfl⟩, rfl⟩

end Session

end SimTerm
