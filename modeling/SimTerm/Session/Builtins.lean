import SimTerm.Session
/-!
# Built-in Commands at Work

What each built-in command does to a session and how it ends.

## Main definitions

* `Session.Effect`: How a command ends, the session afterwards and the events.
* `Session.perform`: A built-in command at work.
-/

namespace SimTerm

namespace Session

/-- How a command ends, the session afterwards and the events on the way. -/
abbrev Effect := Traced (Outcome × Session)

/-- Ends with texts and leaves the session as it is. -/
def answer (s : Session) (texts : List String) : Effect := .pure (.texts texts, s)

/-- Refuses and leaves the session as it is. -/
def decline (s : Session) (e : CommandError) : Effect := .pure (.refused e, s)

/-- The session with another directory tree. -/
def withFiles (s : Session) (files : FileSystem) : Session := { s with files }

/-- The session with another shell. -/
def withShell (s : Session) (shell : Shell) : Session := { s with shell }

/-- The session with another registry. -/
def withRegistry (s : Session) (registry : Registry) : Session := { s with registry }

/-- A text filled with blanks in front to eight characters. -/
def rightAligned (text : String) : String :=
  String.ofList (List.replicate (8 - text.length) ' ') ++ text

/-- Ends with texts, if all of them can be written, and else in the middle. -/
def answerIf (s : Session) : Except Unwritable (List String) → Effect
  | .ok texts => s.answer texts
  | .error _ => .pure (.broke, s)

/-- The line that shows an entry of a directory. -/
def entryText (n : Node) : Except Unwritable String := do
  let size ← n.size.display
  let permissions ← n.stat.permissions.display
  return permissions ++ " " ++ rightAligned size ++ " " ++ n.stat.modified.dateText ++ " " ++
    n.name ++ (if n.isDirectory then "/" else "")

/-- Shows the entries of a directory; words that start with a dash do not count. -/
def listEntries (s : Session) (c : Command) : Effect :=
  let path := (c.args.filter (fun a => a.toList.head? != some '-')).head?
  match s.files.list path with
  | [] => s.answer ["Directory is empty"]
  | entries => s.answerIf (entries.mapM entryText)

/-- Changes the current directory, to the root if none is named. -/
def changeDirectory (s : Session) (c : Command) : Effect :=
  let path := c.arg 0 "/"
  (s.files.changeDirectory path).map (fun r =>
    if r.1 then (.texts [], s.withFiles r.2)
    else (.refused (.notFound "cd" path), s))

/-- Makes a directory. -/
def makeDirectory (now : Moment) (s : Session) (c : Command) : Effect :=
  match c.first? with
  | none => s.decline (.invalid "mkdir" "missing operand")
  | some name =>
    if !Path.isEntryName name then
      s.decline (.invalidOperand "mkdir" "Invalid directory name" name)
    else
      (s.files.createDirectory now name).map (fun r =>
        if r.1 then (.texts [], s.withFiles r.2)
        else (.refused (.alreadyExists "mkdir" name), s))

/-- Makes an empty file; a file that is there is left alone. -/
def touchFile (now : Moment) (s : Session) (c : Command) : Effect :=
  match c.first? with
  | none => s.decline (.invalid "touch" "missing file operand")
  | some name =>
    if !Path.isEntryName name then
      s.decline (.invalidOperand "touch" "Invalid file name" name)
    else
      (s.files.createFile now name "").map (fun r =>
        if r.1 then (.texts [], s.withFiles r.2)
        else if s.files.isDirectory name then
          (.refused (.alreadyExists "touch" name "Is a directory"), s)
        else (.texts [], s))

/-- The text of a file, or a refusal in the name of a command. -/
def fileText (s : Session) (command path : String) : Except CommandError String :=
  match s.files.read? path with
  | some text => .ok text
  | none => .error (.notFound command path)

/-- Shows a file, one line for each of its lines. -/
def showFile (s : Session) (c : Command) : Effect :=
  match c.first? with
  | none => s.decline (.invalid "cat" "missing operand")
  | some path =>
    match s.fileText "cat" path with
    | .error e => s.decline e
    | .ok text => s.answer ((text.toList.splitOn '\n').map String.ofList)

/-- Shows the user. -/
def showUser (s : Session) : Effect :=
  match s.config.shell with
  | .settings shell => .pure (.lines [shell.username], s)
  | .replaced _ => .pure (.broke, s)

/-- Ends with texts about the terminal. -/
def aboutTerminal (s : Session) (texts : String → List String) : Effect :=
  match s.config.terminal with
  | .settings t =>
    s.answerIf (do
      let name ← t.name.display
      let version ← t.version.display
      return texts (name ++ " v" ++ version))
  | .replaced _ => .pure (.broke, s)

/-- Shows the active persona, or makes another one active. -/
def chooseShell (s : Session) (c : Command) : Effect :=
  match c.first? with
  | none => s.answer ["Current shell: " ++ s.shell.profile.name]
  | some name =>
    (s.shell.switch name).map (fun r =>
      if r.1 then (.texts ["Switched to " ++ r.2.profile.name], s.withShell r.2)
      else
        (.refused (.invalidOperand "shell"
          ("Available shells: " ++ String.intercalate ", " Persona.names) name), s))

/-- Reads a shell configuration into the active profile. -/
def sourceFile (s : Session) (c : Command) : Effect :=
  match c.first? with
  | none => s.decline (.invalid "source" "missing operand")
  | some path =>
    match s.fileText "source" path with
    | .error e => s.decline e
    | .ok text =>
      (s.shell.load text).map (fun r =>
        (.texts ["Loaded configuration from " ++ path], s.withShell r.2))

/-- Shows the variables of the active profile. -/
def showVariables (s : Session) : Effect :=
  s.answer (s.shell.profile.environment.map (fun v => v.1 ++ "=" ++ v.2))

/-- What stands before the first equals sign of a text, and after it if there is one. -/
def splitAssignment (text : String) : String × Option String :=
  match text.toList.span (· != '=') with
  | (before, _ :: after) => (String.ofList before, some (String.ofList after))
  | (before, []) => (String.ofList before, none)

/-- The assignment that an argument writes. -/
def assignment? (arg : String) : Option (String × String) :=
  match splitAssignment arg with
  | (name, some value) => if name.isEmpty then none else some (name, value)
  | (_, none) => none

/-- The assignments that arguments write, or the first argument that writes none. -/
def assignmentsOf : List String → Except String (List (String × String))
  | [] => .ok []
  | arg :: rest =>
    match assignment? arg with
    | none => .error arg
    | some a => (assignmentsOf rest).map (a :: ·)

/-- Sets variables of the active profile, all or none; without any, shows them. -/
def exportVariables (s : Session) (c : Command) : Effect :=
  if c.args.isEmpty then s.showVariables
  else
    match assignmentsOf c.args with
    | .error arg => s.decline (.invalidOperand "export" "not a valid identifier" arg)
    | .ok assignments =>
      .pure (.texts [],
        s.withShell (assignments.foldl (fun sh a => sh.setVariable a.1 a.2) s.shell))

/-- A text without the quotes around it. -/
def stripQuotes (text : String) : String :=
  let front := text.toList.dropWhile RcLine.isQuote
  String.ofList (front.reverse.dropWhile RcLine.isQuote).reverse

/-- Shows the aliases of the active profile, or defines one. -/
def aliasCommand (s : Session) (c : Command) : Effect :=
  if c.args.isEmpty then
    s.answer (s.shell.profile.aliases.map (fun a => "alias " ++ a.1 ++ "='" ++ a.2 ++ "'"))
  else
    let refusal := s.decline (.invalidOperand "alias" "usage: alias name=value" c.remainder)
    match splitAssignment c.remainder with
    | (_, none) => refusal
    | (before, some value) =>
      let name := trimmed before
      -- Other blanks than a space may stand in a name.
      if name.isEmpty || name.toList.contains ' ' then refusal
      else .pure (.texts [], s.withShell (s.shell.setAlias name (stripQuotes (trimmed value))))

/-- Shows the history, numbered from one. -/
def showHistory (s : Session) : Effect :=
  s.answer (s.history.entries.mapIdx (fun k e => toString (k + 1) ++ "  " ++ e))

/-- The main colours of a theme. -/
def themeTexts (t : Theme) : List String :=
  ["Background: " ++ t.background, "Foreground: " ++ t.foreground, "Accent: " ++ t.accent]

/-- Shows the active theme, or makes another one active. -/
def chooseTheme (s : Session) (c : Command) : Effect :=
  match c.first? with
  | none =>
    let looks :=
      match s.registry.theme? s.theme with
      | some t => themeTexts t
      | none => []
    s.answer (["Current theme: " ++ s.theme] ++ looks ++
      ["Use 'themes' to list available themes"])
  | some name =>
    match s.registry.theme? name with
    | none => s.decline (.notFound "theme" name "Theme not found")
    | some _ =>
      .pure (.texts ["Switched to theme: " ++ lowered name], { s with theme := lowered name })

/-- Shows the themes. -/
def showThemes (s : Session) : Effect :=
  s.answer (["Available themes:"] ++ s.registry.themeNames.map ("  " ++ ·) ++
    ["", "Usage: load-theme <name> <filename.yml>"])

/-- Reads a theme from a file and stores it under a name. -/
def loadTheme (s : Session) (c : Command) : Effect :=
  match c.args with
  | name :: path :: _ =>
    match s.fileText "load-theme" path with
    | .error e => s.decline e
    | .ok text =>
      match Theme.read text with
      -- A text that breaks the reader breaks the command; one that the reader refuses does not.
      | .error _ => .pure (.broke, s)
      | .ok ⟨none, events⟩ =>
        ⟨(.refused (.invalidOperand "load-theme" "Invalid theme format" path), s), events⟩
      | .ok ⟨some t, events⟩ =>
        let stored := s.registry.addTheme name t
        ⟨(.texts (("Loaded theme: " ++ name) :: themeTexts t), s.withRegistry stored.value),
          events ++ stored.events⟩
  | _ => s.decline (.invalid "load-theme" "usage: load-theme <theme-name> <filename.yml>")

/-- What a workflow says that it does. -/
def purpose (w : Workflow) : String :=
  match w.description with
  | some d => if d.isEmpty then "No description" else d
  | none => "No description"

/-- The line that shows a workflow in a list. -/
def workflowText (w : Workflow) : String := "  " ++ w.name ++ " - " ++ purpose w

/-- The line that shows some words about a workflow; none if there are no words. -/
def wordsText (title : String) (words : List String) : List String :=
  if words.isEmpty then [] else ["    " ++ title ++ ": " ++ String.intercalate ", " words]

/-- The lines that show a workflow in a list. -/
def workflowTexts (w : Workflow) : List String :=
  workflowText w :: wordsText "Arguments" (w.arguments.map WorkflowArgument.name) ++
    wordsText "Tags" w.tags

/-- How a workflow is called. -/
def workflowUsage : String := "Usage: workflow <name> [arg1=value1] [arg2=value2]..."

/-- Shows the workflows in which some words occur. -/
def searchWorkflows (s : Session) (words : List String) : Effect :=
  let query := String.intercalate " " words
  match s.registry.search query with
  | [] => s.answer ["No workflows found matching: " ++ query]
  | found =>
    s.answer (("Found " ++ toString found.length ++ " workflow(s):") ::
      found.flatMap (fun w => workflowText w :: wordsText "Tags" w.tags))

/-- Shows the workflows, all of them or those in which some words occur. -/
def showWorkflows (s : Session) (c : Command) : Effect :=
  let all := s.answer (["Available workflows:"] ++ s.registry.list.flatMap workflowTexts ++
    ["", workflowUsage, "       workflows search <query>"])
  match c.args with
  | verb :: word :: words =>
    if lowered verb == "search" then s.searchWorkflows (word :: words) else all
  | _ => all

/-- A call of a workflow: the words of its name and the values for its placeholders. -/
structure WorkflowCall where
  /-- The words of the name. -/
  words : List String := []
  /-- The values by name. -/
  values : List (String × String) := []

/-- Takes one more argument of a call. Words after the first value do not count. -/
def WorkflowCall.take (call : WorkflowCall) (arg : String) : WorkflowCall :=
  match splitAssignment arg with
  | (name, some value) =>
    if name.isEmpty then call else { call with values := Fields.set call.values name value }
  | (_, none) => if call.values.isEmpty then { call with words := call.words ++ [arg] } else call

/-- The call that some arguments write. -/
def WorkflowCall.ofArgs (args : List String) : WorkflowCall := args.foldl WorkflowCall.take {}

/-- Renders a workflow. -/
def runWorkflow (s : Session) (c : Command) : Effect :=
  let call := WorkflowCall.ofArgs c.args
  if call.words.isEmpty then s.decline (.invalid "workflow" workflowUsage)
  else
    let name := String.intercalate " " call.words
    match s.registry.get? name with
    | none => s.decline (.notFound "workflow" name "Workflow not found")
    | some w =>
      s.answer ["Executing workflow: " ++ w.name, "Command: " ++ w.render call.values,
        "Description: " ++ purpose w]

/-- Reads a workflow from a file and stores it. -/
def loadWorkflow (s : Session) (c : Command) : Effect :=
  match c.first? with
  | none => s.decline (.invalid "load-workflow" "usage: load-workflow <filename.yml>")
  | some path =>
    match s.fileText "load-workflow" path with
    | .error e => s.decline e
    | .ok text =>
      match Workflow.read text with
      -- As for themes, this is no refusal.
      | .error _ => .pure (.broke, s)
      | .ok ⟨none, events⟩ =>
        ⟨(.refused (.invalidOperand "load-workflow" "Invalid workflow format" path), s), events⟩
      | .ok ⟨some w, events⟩ =>
        let stored := s.registry.add w
        ⟨(.texts ["Loaded workflow: " ++ w.name, "Description: " ++ purpose w,
            "Command: " ++ w.command], s.withRegistry stored.value), events ++ stored.events⟩

/-- Shows samples of styles. -/
def styleSamples (s : Session) (c : Command) : Effect :=
  s.answer (Builtin.styleTexts (lowered (c.first?.getD "basic")))

/-- A built-in command at work. -/
def perform (now : Moment) (b : Builtin) (c : Command) (s : Session) : Effect :=
  match b with
  | .help => s.answer Builtin.helpTexts
  -- The output is emptied when the line is through.
  | .clear => .pure (.texts [], { s with clearRequested := true })
  | .listEntries => s.listEntries c
  | .changeDirectory => s.changeDirectory c
  | .showDirectory => s.answer [s.files.cwdText]
  | .makeDirectory => s.makeDirectory now c
  | .touch => s.touchFile now c
  | .showFile => s.showFile c
  | .date => s.answer [now.longText]
  | .showUser => s.showUser
  | .showSystem => s.aboutTerminal (fun title => [title ++ " (Python)"])
  | .version =>
    s.aboutTerminal
      (fun title => [title, "Built with Python", "A terminal simulated entirely in memory"])
  | .shell => s.chooseShell c
  | .source => s.sourceFile c
  | .showVariables => s.showVariables
  | .exportVariables => s.exportVariables c
  | .aliases => s.aliasCommand c
  | .history => s.showHistory
  | .theme => s.chooseTheme c
  | .themes => s.showThemes
  | .loadTheme => s.loadTheme c
  | .workflows => s.showWorkflows c
  | .workflow => s.runWorkflow c
  | .loadWorkflow => s.loadWorkflow c
  | .styleSamples => s.styleSamples c
  | .stylePanel => s.answer Builtin.demoTexts
  | .colourTable => s.answer Builtin.colourTexts

end Session

end SimTerm
