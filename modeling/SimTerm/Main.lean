import SimTerm.Console
import Std.Time.Format
/-!
# The Program

The terminal on the standard streams.

## Main definitions

* `main`: The program.
-/

open SimTerm

/-- The current moment. -/
def currentMoment : IO Moment := do
  let now ← Std.Time.Timestamp.now
  match Instant.ofSeconds now.toSecondsSinceUnixEpoch.val with
  | .ok i => return i.moment
  | .error _ => return default

/-- Writes a text at once. -/
def writeOut (text : String) : IO Unit := do
  let out ← IO.getStdout
  out.putStr text
  out.flush

/-- What the standard input has to offer. -/
def readInput : IO Input := do
  let line ← (← IO.getStdin).getLine
  if line.isEmpty then return .done
  return .line (if line.endsWith "\n" then (line.dropEnd 1).toString else line)

/-- Prompts and answers until the input ends. -/
partial def loop (isTerminal : Bool) (s : Session) : IO UInt32 := do
  match Console.promptText s with
  | .error _ => return 1
  | .ok prompt =>
    writeOut prompt
    let input ← readInput
    match Console.step (← currentMoment) isTerminal s input with
    | .error _ => return 1
    | .ok (text, next) =>
      writeOut text
      match next with
      | some s => loop isTerminal s
      | none => return 0

/-- Runs commands one after another. -/
def runCommands (s : Session) : List String → IO UInt32
  | [] => return 0
  | command :: rest => do
    match (s.submit (← currentMoment) command).value with
    | (.error _, _) => return 1
    | (.ok lines, s) =>
      match Console.linesText false lines with
      | .error _ => return 1
      | .ok text =>
        writeOut text
        runCommands s rest

/-- The program: the script if it is asked for, or else the conversation. -/
def main (args : List String) : IO UInt32 := do
  match Console.firstSession (← currentMoment) with
  | .error _ => return 1
  | .ok s =>
    if Console.wantsScript args then runCommands s Console.script
    else
      let isTerminal ← (← IO.getStdout).isTty
      match Console.greeting isTerminal s with
      | .error _ => return 1
      | .ok text =>
        writeOut text
        loop isTerminal s
