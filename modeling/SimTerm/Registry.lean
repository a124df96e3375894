import SimTerm.Journal.Event
import SimTerm.Text.Occurrence
import SimTerm.Theme
import SimTerm.Workflow
/-!
# Workflows and Themes in Store

A registry holds workflows and themes under their names in small letters. A record that is
stored under a taken name takes the place of the one that was there.

## Main definitions

* `Registry`: The stored records.
* `Registry.add`, `Registry.get?`, `Registry.list`: Workflows by name.
* `Registry.search`: The workflows in which a text occurs.
* `Registry.addTheme`, `Registry.theme?`: Themes by name.
* `Workflow.read`, `Theme.read`: The record that a document writes, if it is not refused.
-/

namespace SimTerm

/-- The stored workflows and themes. -/
structure Registry where
  /-- The workflows by name. -/
  workflows : List (String × Workflow) := []
  /-- The themes by name. -/
  themes : List (String × Theme) := []
deriving Repr, DecidableEq

namespace Workflow

/-- The workflows that every session starts with. -/
def standard : List Workflow := [
  { name := "Git Status"
    command := "git status"
    description := some "Show the working tree status"
    tags := ["git", "version-control"]
    shells := ["bash", "zsh", "fish"] },
  { name := "List Files Detailed"
    command := "ls -la \x7b\x7bdirectory\x7d\x7d"
    description := some "List all files in directory with detailed information"
    tags := ["filesystem", "list"]
    arguments := [⟨"directory", some "Directory to list files from", some "."⟩] },
  { name := "Find Files"
    command := "find \x7b\x7bpath\x7d\x7d -name '\x7b\x7bpattern\x7d\x7d'"
    description := some "Find files matching a pattern"
    tags := ["search", "filesystem"]
    arguments := [⟨"path", some "Path to search in", some "."⟩,
      ⟨"pattern", some "File pattern to search for", some "*.txt"⟩] },
  { name := "Docker List Containers"
    command := "docker ps \x7b\x7bflags\x7d\x7d"
    description := some "List Docker containers"
    tags := ["docker", "containers"]
    arguments := [⟨"flags", some "Docker ps flags", some "-a"⟩] }]

/-- Whether a text in small letters occurs in the name, the description or a tag. -/
def isFoundBy (w : Workflow) (needle : List Char) : Bool :=
  Text.occursIn needle (Text.lower w.name.toList) ||
    (match w.description with
      | some d => !d.isEmpty && Text.occursIn needle (Text.lower d.toList)
      | none => false) ||
    w.tags.any (fun t => Text.occursIn needle (Text.lower t.toList))

end Workflow

namespace Theme

/-- The theme that every session starts with. -/
def asam : Theme where
  accent := "#fff024"
  background := "#080808"
  foreground := "#5bee00"
  normal :=
    { black := "#000000", red := "#ff004d", green := "#00e756", yellow := "#fff024"
      blue := "#83769c", magenta := "#ff77a8", cyan := "#29adff", white := "#5f574f" }
  bright :=
    { black := "#008751", red := "#ffa300", green := "#1d2b53", yellow := "#7e2553"
      blue := "#ab5236", magenta := "#c2c3c7", cyan := "#ffccaa", white := "#fff1e8" }

/-- The name of the theme that every session starts with. -/
def standardName : String := "asam"

end Theme

namespace Registry

/-- Stores a workflow under its name. -/
def store (r : Registry) (w : Workflow) : Registry :=
  { r with workflows := Fields.set r.workflows (lowered w.name) w }

/-- Stores a workflow under its name and reports it. -/
def add (r : Registry) (w : Workflow) : Traced Registry :=
  ⟨r.store w, [.workflowRegistered w.name]⟩

/-- The registry that every session starts with. -/
def standard : Registry :=
  Workflow.standard.foldl store { themes := [(Theme.standardName, .asam)] }

/-- What the making of the standard registry reports. -/
def standardEvents : List Event := Workflow.standard.map (fun w => .workflowRegistered w.name)

/-- The workflow with a name, whatever the case of its letters. -/
def get? (r : Registry) (name : String) : Option Workflow :=
  Fields.get? r.workflows (lowered name)

/-- The workflows in the order in which their names were first stored. -/
def list (r : Registry) : List Workflow := r.workflows.map Prod.snd

/-- The workflows in which a text occurs, whatever the case of its letters. -/
def search (r : Registry) (query : String) : List Workflow :=
  r.list.filter (fun w => w.isFoundBy (Text.lower query.toList))

/-- Stores a theme under a name and reports it. -/
def addTheme (r : Registry) (name : String) (t : Theme) : Traced Registry :=
  ⟨{ r with themes := Fields.set r.themes (lowered name) t }, [.themeRegistered name]⟩

/-- The theme with a name, whatever the case of its letters. -/
def theme? (r : Registry) (name : String) : Option Theme :=
  Fields.get? r.themes (lowered name)

/-- The names of the themes in the order in which they were first stored. -/
def themeNames (r : Registry) : List String := Fields.names r.themes

end Registry

/-- A record, or nothing and a report of the reason for which it is refused. -/
def accepted {α : Type} (report : String → Event) (result : Except Schema.Fault α) :
    Except Yaml.Halt (Traced (Option α)) :=
  match result with
  | .ok record => .ok ⟨some record, []⟩
  | .error (.refused r) => .ok ⟨none, [report r.message]⟩
  | .error (.halted h) => .error h

/-- The workflow that a text writes, or nothing if it is refused. -/
def Workflow.read (text : String) : Except Yaml.Halt (Traced (Option Workflow)) :=
  accepted .workflowRejected (Workflow.ofText text)

/-- The theme that a text writes, or nothing if it is refused. -/
def Theme.read (text : String) : Except Yaml.Halt (Traced (Option Theme)) :=
  accepted .themeRejected (Theme.ofText text)

end SimTerm
