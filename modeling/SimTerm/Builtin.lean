/-!
# Built-in Commands

The vocabulary of the terminal and the texts that do not depend on its state.

## Main definitions

* `Builtin`: The built-in commands.
* `Builtin.name`, `Builtin.ofName?`: What they are called by.
* `Builtin.helpTexts`: What the command for help shows.
* `Builtin.styleTexts`, `Builtin.demoTexts`, `Builtin.colourTexts`: Texts with control
  sequences.
-/

namespace SimTerm

/-- The built-in commands. -/
inductive Builtin where
  /-- Shows the vocabulary. -/
  | help
  /-- Asks for an empty screen. -/
  | clear
  /-- Shows the entries of a directory. -/
  | listEntries
  /-- Changes the current directory. -/
  | changeDirectory
  /-- Shows the current directory. -/
  | showDirectory
  /-- Makes a directory. -/
  | makeDirectory
  /-- Makes an empty file. -/
  | touch
  /-- Shows a file. -/
  | showFile
  /-- Shows date and time. -/
  | date
  /-- Shows the user. -/
  | showUser
  /-- Shows the system. -/
  | showSystem
  /-- Shows the version. -/
  | version
  /-- Shows or changes the persona. -/
  | shell
  /-- Reads a shell configuration. -/
  | source
  /-- Shows the variables. -/
  | showVariables
  /-- Sets variables. -/
  | exportVariables
  /-- Shows the aliases or defines one. -/
  | aliases
  /-- Shows the history. -/
  | history
  /-- Shows or changes the theme. -/
  | theme
  /-- Shows the themes. -/
  | themes
  /-- Reads a theme from a file. -/
  | loadTheme
  /-- Shows or searches the workflows. -/
  | workflows
  /-- Renders a workflow. -/
  | workflow
  /-- Reads a workflow from a file. -/
  | loadWorkflow
  /-- Shows samples of styles. -/
  | styleSamples
  /-- Shows a panel with styles. -/
  | stylePanel
  /-- Shows the colours. -/
  | colourTable
deriving Repr, DecidableEq

namespace Builtin

/-- All built-in commands. -/
def all : List Builtin := [
  help, clear, listEntries, changeDirectory, showDirectory, makeDirectory, touch, showFile,
  date, showUser, showSystem, version, shell, source, showVariables, exportVariables, aliases,
  history, theme, themes, loadTheme, workflows, workflow, loadWorkflow, styleSamples,
  stylePanel, colourTable]

/-- What a built-in command is called by. -/
def name : Builtin → String
  | .help => "help"
  | .clear => "clear"
  | .listEntries => "ls"
  | .changeDirectory => "cd"
  | .showDirectory => "pwd"
  | .makeDirectory => "mkdir"
  | .touch => "touch"
  | .showFile => "cat"
  | .date => "date"
  | .showUser => "whoami"
  | .showSystem => "uname"
  | .version => "version"
  | .shell => "shell"
  | .source => "source"
  | .showVariables => "env"
  | .exportVariables => "export"
  | .aliases => "alias"
  | .history => "history"
  | .theme => "theme"
  | .themes => "themes"
  | .loadTheme => "load-theme"
  | .workflows => "workflows"
  | .workflow => "workflow"
  | .loadWorkflow => "load-workflow"
  | .styleSamples => "vt100"
  | .stylePanel => "vt100-demo"
  | .colourTable => "vt100-colors"

/-- The built-in command with a name. -/
def ofName? (s : String) : Option Builtin := all.find? (fun b => b.name == s)

/-- What the command for help shows. -/
def helpTexts : List String := [
  "Available commands:",
  "  help     - Show this help message",
  "  clear    - Clear terminal screen",
  "  ls       - List directory contents",
  "  cd       - Change directory",
  "  pwd      - Print working directory",
  "  mkdir    - Create directory",
  "  touch    - Create empty file",
  "  cat      - Display file contents",
  "  echo     - Echo text back",
  "  date     - Show current date and time",
  "  whoami   - Display current user",
  "  uname    - System information",
  "  version  - Show terminal version",
  "  shell    - Change shell (bash, zsh, fish, powershell)",
  "  source   - Load shell configuration file",
  "  env      - Show environment variables",
  "  export   - Set environment variable (NAME=value)",
  "  alias    - List or define aliases (name=value)",
  "  history  - Show command history",
  "  theme    - Show or switch the active theme",
  "  themes   - List available themes",
  "  load-theme <name> <file> - Load theme from YAML file",
  "  workflows - List available workflows",
  "  workflows search <query> - Search workflows",
  "  workflow <name> - Execute a workflow",
  "  load-workflow <file> - Load workflow from YAML file",
  "  vt100    - Test VT100/ANSI escape sequences",
  "  vt100-demo - Demonstrate VT100 formatting",
  "  vt100-colors - Show VT100 color palette"]

/-- A text between a control sequence with some codes and the one that ends every style. -/
def styled (codes text : String) : String := "\x1b[" ++ codes ++ "m" ++ text ++ "\x1b[0m"

/-- Samples of styles, by the name of the sample. -/
def styleTexts (sample : String) : List String :=
  match sample with
  | "basic" => [
      "VT100/ANSI Escape Sequence Test:",
      styled "1" "Bold text",
      styled "3" "Italic text",
      styled "4" "Underlined text",
      styled "7" "Inverse text",
      styled "9" "Strikethrough text"]
  | "colors" => [
      "VT100 Color Test:",
      styled "31" "Red text",
      styled "32" "Green text",
      styled "33" "Yellow text",
      styled "34" "Blue text",
      styled "35" "Magenta text",
      styled "36" "Cyan text",
      styled "37" "White text"]
  | "combined" => [
      "Combined VT100 Effects:",
      styled "1;31" "Bold Red",
      styled "3;32" "Italic Green",
      styled "4;34" "Underlined Blue",
      styled "1;4;35" "Bold Underlined Magenta",
      styled "42" "Green Background",
      styled "1;37;41" "Bold White on Red"]
  | _ => [
      "VT100 Test Options:",
      "  vt100 basic    - Test basic formatting",
      "  vt100 colors   - Test color sequences",
      "  vt100 combined - Test combined effects"]

/-- Blanks. -/
def blanks (n : Nat) : String := String.ofList (List.replicate n ' ')

/-- A border of the panel between two corners. -/
def border (left right : String) : String :=
  styled "1;36" (left ++ String.ofList (List.replicate 38 '═') ++ right)

/-- A row of the panel between its edges. -/
def row (text : String) : String := styled "1;36" "║" ++ text ++ styled "1;36" "║"

/-- The control sequence with a code. -/
def coded (code : Nat) (text : String) : String := "\x1b[" ++ toString code ++ "m" ++ text

/-- The dots of the panel in the seven colours. -/
def dots : String := String.join ((List.range 7).map (fun k => coded (31 + k) "●"))

/-- A panel with styles. -/
def demoTexts : List String := [
  border "╔" "╗",
  row (" " ++ styled "1;33" "VT100/ANSI Terminal Demo" ++ blanks 13),
  border "╠" "╣",
  row (" " ++ styled "1" "Text Formatting:" ++ blanks 21),
  row (blanks 3 ++ styled "1" "Bold" ++ " " ++ styled "3" "Italic" ++ " " ++
    styled "4" "Underline" ++ " " ++ styled "9" "Strike" ++ blanks 6),
  row (blanks 38),
  row (" " ++ styled "1" "Colors:" ++ blanks 30),
  row (blanks 3 ++ dots ++ "\x1b[0m Rainbow Colors" ++ blanks 16),
  row (blanks 38),
  row (" " ++ styled "1" "Background Colors:" ++ blanks 19),
  row (blanks 3 ++ coded 41 " Red " ++ coded 42 " Green " ++ coded 44 " Blue " ++
    "\x1b[0m" ++ blanks 14),
  border "╚" "╝"]

/-- The names of the eight colours. -/
def colourNames : List String :=
  ["Black", "Red", "Green", "Yellow", "Blue", "Magenta", "Cyan", "White"]

/-- A row of the table of colours. -/
def colourRow (name : String) (code : Nat) : String :=
  let shown := toString code
  "  " ++ styled shown shown ++ " - " ++ name ++ " (" ++ styled shown "■■■" ++ ")"

/-- The rows of the table of colours from a code on. -/
def colourRows (first : Nat) (kind : String) : List String :=
  colourNames.mapIdx (fun k name => colourRow (kind ++ name) (first + k))

/-- The eight backgrounds from a code on, with blanks around their codes or without. -/
def backgroundRow (first : Nat) (gap : String) : String :=
  "  " ++ String.join ((List.range 8).map (fun k =>
    coded (first + k) (gap ++ toString (first + k) ++ gap))) ++ "\x1b[0m"

/-- A table of the colours. -/
def colourTexts : List String :=
  [styled "1" "VT100/ANSI Color Palette:", "", styled "1" "Standard Colors (30-37):"] ++
    colourRows 30 "" ++ ["", styled "1" "Bright Colors (90-97):"] ++ colourRows 90 "Bright " ++
    ["", styled "1" "Background Colors (40-47, 100-107):", backgroundRow 40 " ",
      backgroundRow 100 ""]

end Builtin

end SimTerm
