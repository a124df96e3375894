import SimTerm.Session.Builtins
/-!
# Lines of Input

A line of input is trimmed, its alias is replaced once, and its first word names what runs: a
built-in or added command, an echo, or nothing that is known. The answer is cut at a cap.
Submitting a line also enters it into the history and writes it with its answer to the output;
where an empty screen was asked for, the output is emptied instead and nothing is shown.

## Main definitions

* `Session.runCommand`: The answer to a command.
* `Session.dispatch`: The answer to a line.
* `Session.submit`: A line entered into a session.
* `Session.welcome`: The first lines of a new session.
* `Session.render`: The styled segments of a text.
-/

namespace SimTerm

namespace Session

/-- The session with the lines of an outcome, and the report of a failure. -/
def conclude (c : Command) (e : Effect) : Traced (List Line × Session) :=
  let s := e.value.2
  match e.value.1 with
  | .lines texts => ⟨s.number .output texts, e.events⟩
  | .refused err =>
    ⟨s.number .error [.str err.message], e.events ++ [.commandFailed s.id c.name err.code]⟩
  | .broke =>
    ⟨s.number .error [.str (CommandError.internal c.name).message],
      e.events ++ [.commandBroke s.id c.name]⟩

/-- What a handler does with a command. -/
def handle (now : Moment) (h : Handler) (c : Command) (s : Session) : Effect :=
  match h with
  | .builtin b => s.perform now b c
  | .added run => .pure (run c, s)

/-- Whether a name stands for an echo. -/
def isEcho (name : String) : Bool := "echo".toList.isPrefixOf name.toList

/-- What is shown for a command that nothing is known of. -/
def unknownText (name : String) : String :=
  "Command not found: " ++ name ++ ". Type \"help\" for available commands."

/-- The answer to a command, given the longest name that commands may have. -/
def runCommand (now : Moment) (longest : Nat) (c : Command) (s : Session) :
    Traced (List Line × Session) :=
  if longest < c.name.length then .pure (s.number .error ["Invalid command"])
  else
    match s.handler? c.name with
    | some h => conclude c (s.handle now h c)
    | none =>
      if isEcho c.name then .pure (s.number .output [.str c.remainder])
      else
        ⟨s.number .error [.str (unknownText c.name)], [.unknownCommand s.id c.name]⟩

/-- An answer cut at a cap, reported if anything was cut off. -/
def cutAnswer (limit : Nat) (c : Command) (answer : Traced (List Line × Session)) :
    Traced (List Line × Session) :=
  let lines := answer.value.1
  let s := answer.value.2
  if limit < lines.length then
    ⟨(lines.take limit, s),
      answer.events ++ [.outputTruncated s.id c.name lines.length limit]⟩
  else answer

/-- The command that a line calls after its alias is replaced; nothing for a blank line. -/
def commandOf? (s : Session) (raw : String) : Option Command :=
  let line := trimmed raw
  if line.isEmpty then none
  else
    let c := Command.parse (s.shell.expandAlias line)
    if c.name.isEmpty then none else some c

/-- The answer to a line. It needs the caps of the configuration. -/
def dispatch (now : Moment) (raw : String) (s : Session) :
    Except ConfigFault (Traced (List Line × Session)) :=
  match s.commandOf? raw with
  | none => .ok (.pure ([], s))
  | some c =>
    match s.config.lineCaps with
    | .error f => .error f
    | .ok caps =>
      .ok (cutAnswer caps.maxDispatchLines.val c (s.runCommand now caps.maxCommandLength.val c))

/-- The session with its output emptied. -/
def cleared (s : Session) : Session :=
  { s with output := s.output.clear, clearRequested := false }

/-- Writes a line of input and its answer to the output. -/
def record (s : Session) (prompt raw : String) (answer : List Line) : List Line × Session :=
  let (echo, s) := s.number .command [.str (prompt ++ " " ++ raw)]
  -- The line itself is numbered after its answer and shown before it.
  let lines := echo ++ answer
  (lines, { s with output := s.output.extend lines })

/-- Enters a line into the history. -/
def remember (s : Session) (raw : String) : Session :=
  { s with history := (s.history.push (trimmed raw)).2 }

/-- A line entered into a session at a prompt, with the lines to show. -/
def submitAt (prompt : String) (now : Moment) (raw : String) (s : Session) :
    Traced (Except ConfigFault (List Line) × Session) :=
  let ready := { s with clearRequested := false }
  match ready.dispatch now raw with
  -- A line that cannot be run is not remembered.
  | .error f => ⟨(.error f, ready), []⟩
  | .ok ⟨(answer, after), events⟩ =>
    let after := after.remember raw
    if after.clearRequested then ⟨(.ok [], after.cleared), events ++ [.outputCleared s.id]⟩
    else
      let (lines, after) := after.record prompt raw answer
      ⟨(.ok lines, after), events⟩

/-- A line entered into a session, with the lines to show. The prompt comes first, before the
line is looked at and may change it, and where there is none nothing happens at all. -/
def submit (now : Moment) (raw : String) (s : Session) :
    Traced (Except ConfigFault (List Line) × Session) :=
  match s.prompt with
  | .error u => ⟨(.error (.unwritable u), s), []⟩
  | .ok prompt => s.submitAt prompt now raw

/-- The second line of a new session. -/
def welcomeHint : String := "Type \"help\" for available commands."

/-- Writes the first lines of a new session. -/
def welcome (s : Session) : Except ConfigFault (List Line × Session) :=
  match s.config.terminal.demand with
  | .error f => .error f
  | .ok t =>
    let (lines, s) := s.number .output [t.welcomeMessage, .str welcomeHint]
    .ok (lines, { s with output := s.output.extend lines })

/-- The styled segments of a text, written with the session's pen. -/
def render (s : Session) (text : String) : Rendering × Session :=
  let r := s.pen.render text
  (r, { s with pen := r.pen })

/-- Goes back one command in the history. -/
def recallPrevious (s : Session) : Option String × Session :=
  let (found, history) := s.history.previous
  (found, { s with history })

/-- Goes forward one command in the history. -/
def recallNext (s : Session) : String × Session :=
  let (found, history) := s.history.next
  (found, { s with history })

end Session

end SimTerm
