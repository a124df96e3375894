import SimTerm.Config.Settings
import SimTerm.Journal.Event
import SimTerm.Shell.RcLine
/-!
# The Shell

The profiles of all four personas and which of them is active. Definitions go to the active
profile, and the prompt and the expansion of aliases are taken from it.

## Main definitions

* `Shell`: The profiles, the active persona and the settings.
* `Shell.prompt`: The prompt for a directory.
* `Shell.load`: Reads a shell configuration into the active profile.
* `Shell.expandAlias`: Replaces the first word of a line by its alias.
-/

namespace SimTerm

/-- The profiles of all personas and which of them is active. -/
structure Shell where
  /-- The profiles. -/
  profiles : Profiles := .standard
  /-- The active persona. -/
  active : Persona
  /-- The settings for the prompt. -/
  settings : ShellSettings
deriving Repr

/-- How many definitions a shell configuration had. -/
structure LoadCount where
  /-- The lines that defined an alias. -/
  aliases : Nat
  /-- The lines that set a variable. -/
  assignments : Nat
  /-- The lines that defined a function. -/
  functions : Nat
deriving Repr, DecidableEq

namespace LoadCount

/-- The number of all definitions. -/
def total (c : LoadCount) : Nat := c.aliases + c.assignments + c.functions

/-- The definitions among some lines. -/
def ofLines (lines : List RcLine) : LoadCount where
  aliases := lines.countP RcLine.isAlias
  assignments := lines.countP RcLine.isVariable
  functions := lines.countP RcLine.isFunction

end LoadCount

namespace Shell

/-- The persona that a value names; bash for any other value. -/
def personaOf : Json → Persona
  | .str s => (Persona.ofName? s).getD .bash
  | _ => .bash

/-- The shell that a session starts with. -/
def start (s : ShellSettings) : Shell where
  active := personaOf s.defaultShell
  settings := s

/-- The active profile. -/
def profile (sh : Shell) : Profile := sh.profiles.get sh.active

/-- Changes the active profile. -/
def modify (sh : Shell) (f : Profile → Profile) : Shell :=
  { sh with profiles := sh.profiles.set sh.active (f sh.profile) }

/-- Makes another persona the active one, if there is one with the name. -/
def switch? (sh : Shell) (name : String) : Option Shell :=
  (Persona.ofName? name).map (fun p => { sh with active := p })

/-- Makes another persona the active one and reports it. -/
def switch (sh : Shell) (name : String) : Traced (Bool × Shell) :=
  match sh.switch? name with
  | some sh' => ⟨(true, sh'), [.personaSwitched sh'.active.name]⟩
  | none => ⟨(false, sh), []⟩

/-- The user at the machine, as prompts show them. -/
def place (sh : Shell) : Except Unwritable String := do
  let user ← sh.settings.username.display
  let host ← sh.settings.hostname.display
  return user ++ "@" ++ host

/-- The prompt for a directory. All personas but one show the user and the machine. -/
def prompt (sh : Shell) (path : String) : Except Unwritable String :=
  let symbol := sh.profile.symbol
  match sh.active with
  | .bash | .zsh => sh.place.map (fun place => place ++ ":" ++ path ++ symbol)
  | .fish => sh.place.map (fun place => place ++ " " ++ path ++ symbol)
  | .powershell => .ok (symbol ++ " " ++ path ++ ">")

/-- Reads a shell configuration into the active profile. -/
def loadLines (sh : Shell) (lines : List RcLine) : Shell :=
  sh.modify (fun p => lines.foldl Profile.apply p)

/-- Reads a shell configuration into the active profile and reports what it defined. -/
def load (sh : Shell) (text : String) : Traced (LoadCount × Shell) :=
  let lines := RcLine.ofLines text
  let count := LoadCount.ofLines lines
  ⟨(count, sh.loadLines lines),
    [.configurationLoaded sh.active.name count.aliases count.assignments count.functions]⟩

/-- Replaces the first word of a line by its alias, once. -/
def expandAlias (sh : Shell) (line : String) : String :=
  let cs := line.toList
  match Fields.get? sh.profile.aliases (String.ofList (Text.headWord cs)) with
  | some value =>
    if (Text.headWord cs).isEmpty then line else value ++ String.ofList (Text.afterHead cs)
  | none => line

/-- Defines an alias of the active profile. -/
def setAlias (sh : Shell) (name value : String) : Shell :=
  sh.modify (fun p => { p with aliases := Fields.set p.aliases name value })

/-- Sets a variable of the active profile. -/
def setVariable (sh : Shell) (name value : String) : Shell :=
  sh.modify (fun p => { p with environment := Fields.set p.environment name value })

/-- A variable of the active profile. -/
def valueOf? (sh : Shell) (name : String) : Option String :=
  Fields.get? sh.profile.environment name

/-- The shell after the settings it works with may have changed. -/
def withSettings (sh : Shell) (s : Section ShellSettings) : Shell :=
  { sh with settings := s.getD sh.settings }

end Shell

end SimTerm
