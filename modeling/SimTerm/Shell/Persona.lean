import SimTerm.Json
import SimTerm.Text.Blank
import SimTerm.Text.Lowercase
/-!
# Personas and Profiles

The four shells that a session can act as. Each has a profile of its own with a prompt symbol,
aliases, functions and variables, and all four profiles exist side by side.

## Main definitions

* `Persona`: The four shells.
* `Persona.ofName?`: A shell by its name, whatever the case of its letters.
* `Profile`: The state of one shell.
* `Profiles`: The state of all four, with look-up and update by shell.
-/

namespace SimTerm

/-- The four shells. -/
inductive Persona where
  | bash
  | zsh
  | fish
  | powershell
deriving Repr, DecidableEq, Inhabited

namespace Persona

/-- All shells. -/
def all : List Persona := [bash, zsh, fish, powershell]

/-- The name that a shell is chosen by. -/
def name : Persona → String
  | .bash => "bash"
  | .zsh => "zsh"
  | .fish => "fish"
  | .powershell => "powershell"

/-- The names of all shells. -/
def names : List String := all.map name

/-- The shell with a name, whatever the case of its letters and the blanks around it. -/
def ofName? (s : String) : Option Persona :=
  let wanted := lowered (trimmed s)
  all.find? (fun p => p.name == wanted)

end Persona

/-- Texts by name in insertion order. -/
abbrev Table := List (String × String)

/-- The state of one shell. -/
structure Profile where
  /-- The name that is shown. -/
  name : String
  /-- The end of the prompt. -/
  symbol : String
  /-- The file that it is configured by. -/
  configFile : String
  /-- The aliases. -/
  aliases : Table := []
  /-- The lines that define functions, by the function's name. -/
  functions : Table := []
  /-- The variables. -/
  environment : Table := []
deriving Repr, DecidableEq

/-- The state of all four shells. -/
structure Profiles where
  /-- The state of bash. -/
  bash : Profile
  /-- The state of zsh. -/
  zsh : Profile
  /-- The state of fish. -/
  fish : Profile
  /-- The state of PowerShell. -/
  powershell : Profile
deriving Repr, DecidableEq

namespace Profiles

/-- What every session starts with. -/
def standard : Profiles where
  bash :=
    { name := "Bash", symbol := "$", configFile := "~/.bashrc"
      environment := [("PS1", "\\u@\\h:\\w\\$ "), ("PATH", "/usr/local/bin:/usr/bin:/bin"),
        ("HOME", "/home/user"), ("SHELL", "/bin/bash")] }
  zsh :=
    { name := "Zsh", symbol := "%", configFile := "~/.zshrc"
      environment := [("PS1", "%n@%m:%~%# "), ("PATH", "/usr/local/bin:/usr/bin:/bin"),
        ("HOME", "/home/user"), ("SHELL", "/bin/zsh")] }
  fish :=
    { name := "Fish", symbol := ">", configFile := "~/.config/fish/config.fish"
      environment := [("PATH", "/usr/local/bin /usr/bin /bin"), ("HOME", "/home/user"),
        ("SHELL", "/usr/bin/fish")] }
  powershell :=
    { name := "PowerShell", symbol := "PS>", configFile := "$PROFILE"
      environment := [("PSModulePath", "C:\\Program Files\\PowerShell\\Modules"),
        ("HOME", "C:\\Users\\user"), ("SHELL", "pwsh")] }

/-- The state of one shell. -/
def get (ps : Profiles) : Persona → Profile
  | .bash => ps.bash
  | .zsh => ps.zsh
  | .fish => ps.fish
  | .powershell => ps.powershell

/-- Replaces the state of one shell. -/
def set (ps : Profiles) (who : Persona) (p : Profile) : Profiles :=
  match who with
  | .bash => { ps with bash := p }
  | .zsh => { ps with zsh := p }
  | .fish => { ps with fish := p }
  | .powershell => { ps with powershell := p }

/-- A replaced state is the one that is found. -/
@[simp] theorem get_set (ps : Profiles) (who : Persona) (p : Profile) :
    (ps.set who p).get who = p := by cases who <;> rfl

/-- Replacing one state leaves the others as they are. -/
theorem get_set_of_ne (ps : Profiles) {who other : Persona} (p : Profile) (h : other ≠ who) :
    (ps.set who p).get other = ps.get other := by
  cases who <;> cases other <;> first | rfl | exact absurd rfl h

end Profiles

end SimTerm
