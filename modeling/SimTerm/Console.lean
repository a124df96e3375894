import SimTerm.Tabs
/-!
# The Console

The terminal on a console: a prompt, a line of input, its answer, and so on until the word
`exit` or the end of the input. Control sequences are written as they are to a console that
understands them and are left out otherwise. Without a console, a fixed script of commands is
run. Each line is entered at a moment of its own.

## Main definitions

* `Input`: What the console has to offer at a prompt.
* `Clock`: The moments at which lines are entered.
* `Console.step`: One line of input and its answer.
* `Console.converse`: All the input and everything that is written.
* `Console.run`: The program as a whole.
-/

namespace SimTerm

/-- What the console has to offer at a prompt. -/
inductive Input where
  /-- A line. -/
  | line (text : String)
  /-- The wish to drop the line. -/
  | interrupt
  /-- No more lines. -/
  | done
deriving Repr, DecidableEq

/-- The moments at which something is entered, one after another. -/
abbrev Clock := Nat → Moment

/-- The moments after the first one. -/
def Clock.later (clock : Clock) : Clock := fun k => clock (k + 1)

/-- Why the program breaks off. -/
inductive ConsoleFault where
  /-- There is no session. -/
  | session (f : SessionFault)
  /-- A line cannot be submitted. -/
  | config (f : ConfigFault)
  /-- What stands in a prompt or in a line has no text. -/
  | unwritable (u : Unwritable)
  /-- A control sequence in a line that is left out has a number with too many digits. -/
  | tooManyDigits
deriving Repr

namespace Console

/-- What is written for a line of output. -/
def lineText (isTerminal : Bool) (l : Line) : Except ConsoleFault String :=
  match l.text.display with
  | .error u => .error (.unwritable u)
  | .ok text =>
    if isTerminal then .ok (text ++ "\n")
    else
      match strip? text with
      | some plain => .ok (plain ++ "\n")
      | none => .error .tooManyDigits

/-- What is written for some lines of output. -/
def linesText (isTerminal : Bool) (lines : List Line) : Except ConsoleFault String :=
  (lines.mapM (lineText isTerminal)).map String.join

/-- What empties the screen. -/
def screenReset : String := "\x1b[2J\x1b[H"

/-- What is written for the answer to a line. The line itself is on the console already. -/
def answerText (isTerminal : Bool) (lines : List Line) : Except ConsoleFault String :=
  match lines with
  | [] => .ok (if isTerminal then screenReset else "")
  | _ :: rest => linesText isTerminal rest

/-- What is written at a prompt. -/
def promptText (s : Session) : Except ConsoleFault String :=
  match s.prompt with
  | .ok prompt => .ok (prompt ++ " ")
  | .error u => .error (.unwritable u)

/-- What the program leaves off at. -/
def leavesAt (text : String) : Bool := trimmed text == "exit"

/-- What is written after something was entered, and the session to go on with, if any. -/
def step (now : Moment) (isTerminal : Bool) (s : Session) :
    Input → Except ConsoleFault (String × Option Session)
  | .done => .ok ("\n", none)
  | .interrupt => .ok ("^C\n", some s)
  | .line text =>
    if leavesAt text then .ok ("", none)
    else
      match (s.submit now text).value with
      | (.error f, _) => .error (.config f)
      | (.ok lines, s) => (answerText isTerminal lines).map (fun t => (t, some s))

/-- All the input, with the moments at which it is entered, and everything that is written from
the first prompt on. -/
def converse (clock : Clock) (isTerminal : Bool) (s : Session) :
    List Input → Except ConsoleFault String
  | [] => (promptText s).map (· ++ "\n")
  | i :: rest => do
    let prompt ← promptText s
    match ← step (clock 0) isTerminal s i with
    | (text, none) => return prompt ++ text
    | (text, some s') =>
      let more ← converse clock.later isTerminal s' rest
      return prompt ++ text ++ more

/-- What is written before the first prompt. -/
def greeting (isTerminal : Bool) (s : Session) : Except ConsoleFault String :=
  linesText isTerminal s.output.lines

/-- The commands that are run without a console. -/
def script : List String := [
  "pwd",
  "cd /home/user",
  "ls",
  "cat welcome.txt",
  "source .bashrc",
  "ll",
  "workflow Find Files pattern=*.py",
  "vt100 colors"]

/-- What is written for some commands, together with the prompts. -/
def runScript (clock : Clock) (s : Session) : List String → Except ConsoleFault String
  | [] => .ok ""
  | command :: rest =>
    match (s.submit (clock 0) command).value with
    | (.error f, _) => .error (.config f)
    | (.ok lines, s') => do
      let text ← linesText false lines
      let more ← runScript clock.later s' rest
      return text ++ more

/-- The configuration that comes with the program. -/
def bundled : ConfigStore := ⟨some {}⟩

/-- The first session. -/
def firstSession (now : Moment) : Except ConsoleFault Session :=
  match (Tabs.start bundled now).value with
  | .error f => .error (.session f)
  | .ok tabs => .ok tabs.active

/-- Whether the arguments of the program ask for the script. -/
def wantsScript (args : List String) : Bool := args.head? == some "--headless"

/-- Everything that the program writes, when it starts at a moment. -/
def run (now : Moment) (clock : Clock) (args : List String) (isTerminal : Bool)
    (inputs : List Input) : Except ConsoleFault String := do
  let s ← firstSession now
  if wantsScript args then runScript clock s script
  else
    let greeting ← greeting isTerminal s
    let rest ← converse clock isTerminal s inputs
    return greeting ++ rest

end Console

end SimTerm
