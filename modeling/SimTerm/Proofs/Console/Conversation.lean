import SimTerm.Console
import SimTerm.Proofs.Session.Copies
import SimTerm.Proofs.Session.Echo
import SimTerm.Proofs.Session.Shape
import SimTerm.Proofs.Shell.Prompt
import SimTerm.Proofs.Style.Overlong

/-!
# Conversations

What the program writes, line by line, and the one way in which it can fail.

The conversation goes on until something ends it, the word to leave or the end
of the input, and everything before that is answered in its order
(`attended`). No line fails to be entered. The configuration that comes with the
program has the caps that a line needs, and names that can be written in front
of it, and no line changes either (`IsBundled`). What is shown are texts. What can
still fail is writing the answer down. Where control sequences are left out they
have to be read, and reading one gives up at a number with too many digits.

So there is a text for every input (`transcript`), and the program writes it
exactly when all lines that it has to show can be written (`IsWritable`). On a
console they always can. Elsewhere the lines to show decide, and they are told
without the program: they are what the session answers to the lines before the
end, each at its moment. Each layer around the writing of one line is the same
kind of result, a text on a condition (`Writes`), and the conditions are collected
on the way out (`lineText_writes`, `linesText_writes`, `step_writes`,
`converse_writes`).

The condition is not an empty one: a word that is echoed is shown as it is, so
a sequence of many digits brings the program down (`run_zeros`).

## Main definitions

* `ends`, `attended`, `farewell`: Where the conversation ends.
* `IsBundled`: A session with the configuration that comes with the program.
* `reply`, `follow`, `transcript`: What is written.
* `answerTo`, `shown`: The lines to show.
* `IsWritable`: A line that can be written.
* `Writes`: A text on a condition.

## Theorems

* `IsBundled.enter`, `IsBundled.submit`: Lines keep such a session and are answered
  with texts.
* `linesText_writes`: What is written for some lines.
* `converse_writes`: What is written for all the input.
* `run_writes`: What the program writes.
* `run_writes_leaving`: A conversation that is left before the input ends.
* `run_zeros`, `run_zeros_beyond`: One that breaks off.
-/

namespace SimTerm

/-- A line says a text. -/
def Line.IsText (l : Line) : Prop := ∃ text, l.text = .str text

namespace Console

/-- Whether the conversation ends at an input. -/
def ends : Input → Bool
  | .line text => leavesAt text
  | .interrupt => false
  | .done => true

/-- The input that is answered: all before the first one that ends the
    conversation. -/
def attended (inputs : List Input) : List Input := inputs.takeWhile (fun i => !ends i)

/-- What is written at the end. The word to leave is on the console already. -/
def farewell (inputs : List Input) : String :=
  match inputs.find? ends with
  | some (.line _) => ""
  | _ => "\n"

/-- The lines that a session answers with; the first one is the line itself. -/
def answerTo (now : Moment) (s : Session) (text : String) : List Line :=
  (s.submit now text).value.1.toOption.getD []

/-- The session after an input. -/
def follow (now : Moment) (s : Session) : Input → Session
  | .line text => s.enter (now, text)
  | _ => s

/-- The lines to show for some input. -/
def shown (clock : Clock) (s : Session) : List Input → List Line
  | [] => []
  | .line text :: rest =>
    (answerTo (clock 0) s text).tail ++ shown clock.later (follow (clock 0) s (.line text)) rest
  | _ :: rest => shown clock.later s rest

/-- What a line says. -/
def wording (l : Line) : String := l.text.display.toOption.getD ""

/-- A line that can be written: to a console any one, and elsewhere one whose
    control sequences can be left out. -/
def IsWritable (isTerminal : Bool) (l : Line) : Prop :=
  isTerminal = true ∨ ¬ IsOverlong (wording l)

/-- The text of a line that can be written. -/
def written (isTerminal : Bool) (l : Line) : String :=
  (if isTerminal then wording l else (renderFresh (wording l)).text) ++ "\n"

/-- What is written at a prompt. -/
def prompted (s : Session) : String := s.prompt.toOption.getD "" ++ " "

/-- What is written in reply to an input. -/
def reply (now : Moment) (isTerminal : Bool) (s : Session) : Input → String
  | .line text =>
    match answerTo now s text with
    | [] => if isTerminal then screenReset else ""
    | _ :: rest => String.join (rest.map (written isTerminal))
  | .interrupt => "^C\n"
  | .done => "\n"

/-- What is written for some input, up to the prompt behind it. -/
def transcript (clock : Clock) (isTerminal : Bool) (s : Session) : List Input → String
  | [] => prompted s
  | i :: rest =>
    prompted s ++ reply (clock 0) isTerminal s i ++
      transcript clock.later isTerminal (follow (clock 0) s i) rest

/-- A value if a condition holds, and otherwise a number with too many digits. -/
def Writes {α : Type} (condition : Prop) (a : α) (r : Except ConsoleFault α) : Prop :=
  (condition ∧ r = .ok a) ∨ (¬ condition ∧ r = .error .tooManyDigits)

theorem Writes.map {α β : Type} {condition : Prop} {a : α} {r : Except ConsoleFault α}
    (h : Writes condition a r) (f : α → β) : Writes condition (f a) (r.map f) := by
  rcases h with ⟨hyes, hr⟩ | ⟨hno, hr⟩
  · exact .inl ⟨hyes, by rw [hr]; rfl⟩
  · exact .inr ⟨hno, by rw [hr]; rfl⟩

/-! ### The session -/

/-- A session looks at the configuration that comes with the program, and nothing
    runs in it but built-in commands. -/
structure IsBundled (s : Session) : Prop where
  /-- It looks at that configuration. -/
  config : s.config = {}
  /-- Its prompt is made from the settings in it. -/
  settings : s.shell.settings = {}
  /-- No commands were added. -/
  handlers : s.handlers = Session.standardHandlers

namespace IsBundled

variable {s : Session}

theorem enter (hs : IsBundled s) (i : Session.Input) : IsBundled (s.enter i) where
  config := by rw [Session.enter, Session.submit_config, hs.config]
  settings := by rw [Session.enter, (Session.submit_wired i.1 i.2 s).shell, hs.settings]
  handlers := by rw [Session.enter, Session.submit_handlers, hs.handlers]

theorem follow (hs : IsBundled s) (now : Moment) (i : Input) :
    IsBundled (Console.follow now s i) := by
  cases i with
  | line text => exact hs.enter (now, text)
  | interrupt => exact hs
  | done => exact hs

theorem exists_prompt (hs : IsBundled s) : ∃ prompt, s.prompt = .ok prompt := by
  refine (s.shell.exists_prompt_iff s.files.cwdText).mpr (.inr ?_)
  rw [hs.settings]
  exact ShellSettings.isWritable_of_texts _ "user" "hyper-terminal" rfl rfl

theorem promptText (hs : IsBundled s) : Console.promptText s = .ok (prompted s) := by
  rcases hs.exists_prompt with ⟨prompt, hprompt⟩
  rw [Console.promptText, prompted, hprompt]
  rfl

/-- What a command ends with are texts, as the user is one too. -/
theorem perform_texts (hs : IsBundled s) (now : Moment) (b : Builtin) (c : Command)
    (texts : List Json) (h : (s.perform now b c).value.1 = .lines texts) :
    ∃ ts : List String, texts = ts.map Json.str := by
  rcases Session.ending_texts (Session.perform_ending now c s b) texts h with
    htexts | ⟨shell, hshell, htexts⟩
  · exact htexts
  · rw [hs.config] at hshell
    rw [← Section.settings.inj hshell] at htexts
    exact ⟨["user"], htexts⟩

theorem isText_of_mem_makeLines (kind : LineKind) (start : Nat) (ts : List String) :
    ∀ l ∈ makeLines kind start (ts.map Json.str), l.IsText := by
  induction ts generalizing start with
  | nil => exact fun l hl => absurd hl List.not_mem_nil
  | cons t rest ih => exact List.forall_mem_cons.mpr ⟨⟨t, rfl⟩, ih (start + 1)⟩

theorem runCommand_texts (hs : IsBundled s) (now : Moment) (longest : Nat) (c : Command) :
    ∀ l ∈ (s.runCommand now longest c).value.1, l.IsText := by
  have hone : ∀ (t : Session) kind (text : String), ∀ l ∈ (t.number kind [.str text]).1, l.IsText :=
    fun t kind text => isText_of_mem_makeLines kind t.nextLine [text]
  unfold Session.runCommand
  by_cases hlong : longest < c.name.length
  · rw [if_pos hlong]
    exact hone s _ _
  · rw [if_neg hlong]
    rcases hname : s.handler? c.name with _ | b | run
    · by_cases hecho : Session.isEcho c.name = true
      · simp only [if_pos hecho]
        exact hone s _ _
      · simp only [if_neg hecho]
        exact hone s _ _
    · dsimp only
      unfold Session.conclude
      rcases hends : (s.handle now (.builtin b) c).value.1 with texts | e | _
      · rcases hs.perform_texts now b c texts hends with ⟨ts, rfl⟩
        exact isText_of_mem_makeLines _ _ ts
      · exact hone _ _ _
      · exact hone _ _ _
    · -- Nothing was added that could run.
      have hmem := Fields.mem_of_get? s.handlers c.name _ hname
      rw [hs.handlers, Session.standardHandlers, List.mem_map] at hmem
      rcases hmem with ⟨b, _, hb⟩
      exact absurd (Prod.mk.inj hb).2 Handler.noConfusion

/-- A line is answered, and with texts. -/
theorem submit (hs : IsBundled s) (now : Moment) (raw : String) :
    ∃ lines, (s.submit now raw).value.1 = .ok lines ∧ ∀ l ∈ lines, l.IsText := by
  rcases hs.exists_prompt with ⟨prompt, hprompt⟩
  have hcaps : s.config.lineCaps = .ok ⟨⟨500, by decide⟩, ⟨100, by decide⟩⟩ := by
    rw [hs.config]
    rfl
  rcases Session.submit_ok now raw s _ hcaps prompt hprompt with ⟨lines, hlines⟩
  refine ⟨lines, hlines, ?_⟩
  rw [Session.submit_of_prompt now raw s prompt hprompt] at hlines
  rcases Session.submitAt_cases prompt now raw s with
    ⟨f, _, h⟩ | ⟨_, _, _, h⟩ | ⟨answer, hanswer, _, h⟩
  · rw [h] at hlines
    exact absurd hlines (by simp only [reduceCtorEq, not_false_eq_true])
  · rw [h] at hlines
    rw [← Except.ok.inj hlines]
    exact List.forall_mem_nil _
  · have hready : IsBundled s.ready := ⟨hs.config, hs.settings, hs.handlers⟩
    rw [h] at hlines
    rw [← Except.ok.inj hlines, Session.record_lines, List.forall_mem_cons]
    refine ⟨⟨_, rfl⟩, ?_⟩
    rcases Session.dispatch_cases now raw s.ready answer hanswer with
      ⟨_, hnone⟩ | ⟨c, caps, _, _, hrun⟩
    · rw [hnone]
      exact List.forall_mem_nil _
    · rw [hrun, Session.cutAnswer_lines]
      exact fun l hl => hready.runCommand_texts now _ c l (List.mem_of_mem_take hl)

end IsBundled

/-! ### Lines -/

theorem lineText_writes (isTerminal : Bool) (l : Line) (hl : l.IsText) :
    Writes (IsWritable isTerminal l) (written isTerminal l) (lineText isTerminal l) := by
  rcases hl with ⟨text, htext⟩
  have hspoken : wording l = text := by
    rw [wording, htext]
    rfl
  have hshown : l.text.display = .ok text := by
    rw [htext]
    rfl
  unfold Writes IsWritable lineText written
  rw [hspoken, hshown]
  cases isTerminal with
  | true => exact .inl ⟨.inl rfl, rfl⟩
  | false =>
      simp only [Bool.false_eq_true, if_false, false_or]
      by_cases hlong : IsOverlong text
      · rw [(strip?_eq_none_iff _).mpr hlong]
        exact .inr ⟨not_not_intro hlong, rfl⟩
      · rw [strip?_of_not_overlong _ hlong]
        exact .inl ⟨hlong, rfl⟩

theorem mapM_lineText_writes (isTerminal : Bool) (lines : List Line)
    (hlines : ∀ l ∈ lines, l.IsText) :
    Writes (∀ l ∈ lines, IsWritable isTerminal l) (lines.map (written isTerminal))
      (lines.mapM (lineText isTerminal)) := by
  induction lines with
  | nil => exact .inl ⟨List.forall_mem_nil _, rfl⟩
  | cons l rest ih =>
      rcases List.forall_mem_cons.mp hlines with ⟨hl, hrest⟩
      rw [List.mapM_cons, List.map_cons, List.forall_mem_cons]
      rcases lineText_writes isTerminal l hl with ⟨hl, htext⟩ | ⟨hl, htext⟩
      · rcases ih hrest with ⟨hrest, htexts⟩ | ⟨hrest, htexts⟩
        · rw [htext, htexts]
          exact .inl ⟨⟨hl, hrest⟩, rfl⟩
        · rw [htext, htexts]
          exact .inr ⟨fun h => hrest h.2, rfl⟩
      · rw [htext]
        exact .inr ⟨fun h => hl h.1, rfl⟩

/-- Some lines are written if each of them can be. -/
theorem linesText_writes (isTerminal : Bool) (lines : List Line)
    (hlines : ∀ l ∈ lines, l.IsText) :
    Writes (∀ l ∈ lines, IsWritable isTerminal l) (String.join (lines.map (written isTerminal)))
      (linesText isTerminal lines) :=
  (mapM_lineText_writes isTerminal lines hlines).map String.join

/-! ### The conversation -/

/-- What an input is answered with if nothing is left off at it. -/
theorem step_writes (clock : Clock) (isTerminal : Bool) (s : Session) (hs : IsBundled s)
    (i : Input) (hi : ends i = false) :
    Writes (∀ l ∈ shown clock s [i], IsWritable isTerminal l)
      (reply (clock 0) isTerminal s i, some (follow (clock 0) s i))
      (step (clock 0) isTerminal s i) := by
  cases i with
  | done => exact absurd hi Bool.true_eq_false.mp
  | interrupt => exact .inl ⟨List.forall_mem_nil _, rfl⟩
  | line text =>
      -- Entering the line does not fail, so only writing the answer can.
      rcases hs.submit (clock 0) text with ⟨lines, hlines, htexts⟩
      have hsubmit : (s.submit (clock 0) text).value =
          (.ok lines, (s.submit (clock 0) text).value.2) := by
        rw [← hlines]
      have hanswer : answerTo (clock 0) s text = lines := by
        rw [answerTo, hlines]
        rfl
      have hstep : step (clock 0) isTerminal s (.line text) =
          (answerText isTerminal lines).map
            (fun t => (t, some (follow (clock 0) s (.line text)))) := by
        rw [ends] at hi
        rw [step, if_neg (Bool.eq_false_iff.mp hi), hsubmit, follow, Session.enter]
      rw [hstep, reply, shown, shown, List.append_nil, hanswer]
      refine Writes.map ?_ (fun t => (t, some (follow (clock 0) s (.line text))))
      cases lines with
      | nil => exact .inl ⟨List.forall_mem_nil _, rfl⟩
      | cons l rest => exact linesText_writes isTerminal rest (List.forall_mem_cons.mp htexts).2

theorem shown_cons (clock : Clock) (s : Session) (i : Input) (rest : List Input) :
    shown clock s (i :: rest) =
      shown clock s [i] ++ shown clock.later (follow (clock 0) s i) rest := by
  cases i with
  | line text => rw [shown, shown, shown, List.append_nil]
  | interrupt => rfl
  | done => rfl

theorem step_ends (now : Moment) (isTerminal : Bool) (s : Session) (i : Input)
    (rest : List Input) (hi : ends i = true) :
    step now isTerminal s i = .ok (farewell (i :: rest), none) := by
  rw [farewell, List.find?_cons_of_pos hi]
  cases i with
  | done => rfl
  | interrupt => exact absurd hi Bool.false_ne_true
  | line text =>
      rw [ends] at hi
      rw [step, if_pos hi]

/-- When the conversation goes on, all that it still writes comes behind the prompt
    and the answer. -/
theorem converse_cons_of_step (clock : Clock) (isTerminal : Bool) (s s' : Session)
    (hs : IsBundled s) (i : Input) (rest : List Input) (text : String)
    (h : step (clock 0) isTerminal s i = .ok (text, some s')) :
    converse clock isTerminal s (i :: rest) =
      (converse clock.later isTerminal s' rest).map (prompted s ++ text ++ ·) := by
  rw [converse, hs.promptText, h]
  simp only [bind, Except.bind]
  cases converse clock.later isTerminal s' rest <;> rfl

/-- A step that breaks off ends the conversation without a text. -/
theorem converse_cons_of_error (clock : Clock) (isTerminal : Bool) (s : Session)
    (hs : IsBundled s) (i : Input) (rest : List Input) (f : ConsoleFault)
    (h : step (clock 0) isTerminal s i = .error f) :
    converse clock isTerminal s (i :: rest) = .error f := by
  rw [converse, hs.promptText, h]
  rfl

/-- All input up to the end of the conversation is answered if all lines to show
    for it can be written. -/
theorem converse_writes (clock : Clock) (isTerminal : Bool) (s : Session) (hs : IsBundled s)
    (inputs : List Input) :
    Writes (∀ l ∈ shown clock s (attended inputs), IsWritable isTerminal l)
      (transcript clock isTerminal s (attended inputs) ++ farewell inputs)
      (converse clock isTerminal s inputs) := by
  induction inputs generalizing s clock with
  | nil =>
      rw [converse, hs.promptText]
      exact .inl ⟨List.forall_mem_nil _, rfl⟩
  | cons i rest ih =>
      cases hi : ends i with
      | true =>
          have hnone : attended (i :: rest) = [] := by
            rw [attended, List.takeWhile_cons_of_neg (by rw [hi]; exact Bool.false_ne_true)]
          rw [hnone, converse, hs.promptText]
          simp only [bind, Except.bind, step_ends (clock 0) isTerminal s i rest hi]
          exact .inl ⟨List.forall_mem_nil _, rfl⟩
      | false =>
          -- The end is further on, and the next session is one of the same kind.
          have hmore : attended (i :: rest) = i :: attended rest := by
            rw [attended, List.takeWhile_cons_of_pos (by rw [hi]; rfl), attended]
          have hfarewell : farewell (i :: rest) = farewell rest := by
            rw [farewell, List.find?_cons_of_neg (Bool.eq_false_iff.mp hi), farewell]
          rw [hmore, hfarewell, transcript, shown_cons, List.forall_mem_append, String.append_assoc]
          rcases step_writes clock isTerminal s hs i hi with ⟨hi, hstep⟩ | ⟨hi, hstep⟩
          · rw [converse_cons_of_step clock isTerminal s _ hs i rest _ hstep]
            rcases (ih clock.later (follow (clock 0) s i) (hs.follow (clock 0) i)).map
              (prompted s ++ reply (clock 0) isTerminal s i ++ ·)
              with ⟨hrest, htext⟩ | ⟨hrest, htext⟩
            · exact .inl ⟨⟨hi, hrest⟩, htext⟩
            · exact .inr ⟨fun h => hrest h.2, htext⟩
          · rw [converse_cons_of_error clock isTerminal s hs i rest _ hstep]
            exact .inr ⟨fun h => hi h.1, rfl⟩

/-! ### The program -/

/-- The first lines. -/
def welcomeLines : List Line :=
  [⟨.output, 1, .str "Welcome to Hyper Terminal v1.0.0"⟩,
    ⟨.output, 2, .str "Type \"help\" for available commands."⟩]

/-- What is written before the first prompt. -/
def welcomeText : String :=
  "Welcome to Hyper Terminal v1.0.0\nType \"help\" for available commands.\n"

/-- The session that the program begins with. -/
theorem firstSession_ok (now : Moment) :
    ∃ s, firstSession now = .ok s ∧ IsBundled s ∧
      Fields.get? s.shell.profile.aliases "echo" = none ∧ s.output.lines = welcomeLines :=
  ⟨_, rfl, ⟨rfl, rfl, rfl⟩, rfl,
    OutputLog.extend_lines { capacity := 1000 } welcomeLines rfl (by decide)⟩

/-- Unless the script is asked for, the program is a greeting and a conversation. -/
theorem run_eq_converse (now : Moment) (clock : Clock) (args : List String) (isTerminal : Bool)
    (inputs : List Input) (h : wantsScript args = false) (s : Session)
    (hfirst : firstSession now = .ok s) (hlines : s.output.lines = welcomeLines) :
    run now clock args isTerminal inputs =
      (converse clock isTerminal s inputs).map (welcomeText ++ ·) := by
  have hgreeting : greeting isTerminal s = .ok welcomeText := by
    rw [greeting, hlines]
    cases isTerminal <;> rfl
  rw [run, hfirst, h]
  simp only [bind, Except.bind, Bool.false_eq_true, if_false, hgreeting]
  cases converse clock isTerminal s inputs <;> rfl

/-- What the program writes unless it runs the script, whenever it starts and at
    whatever moments something is entered. It greets, answers all input before the
    one that ends the conversation, and leaves, exactly when all lines that it has
    to show for it can be written; on a console they all can. Otherwise it breaks
    off. -/
theorem run_writes (now : Moment) (clock : Clock) (args : List String) (isTerminal : Bool)
    (inputs : List Input) (h : wantsScript args = false) :
    ∃ s, firstSession now = .ok s ∧
      Writes (∀ l ∈ shown clock s (attended inputs), IsWritable isTerminal l)
        (welcomeText ++ (transcript clock isTerminal s (attended inputs) ++ farewell inputs))
        (run now clock args isTerminal inputs) := by
  rcases firstSession_ok now with ⟨s, hfirst, hs, _, hlines⟩
  refine ⟨s, hfirst, ?_⟩
  rw [run_eq_converse now clock args isTerminal inputs h s hfirst hlines]
  exact (converse_writes clock isTerminal s hs inputs).map (welcomeText ++ ·)

/-- Input that leaves before its end. -/
def leaving : List Input := [.line "pwd", .interrupt, .line " exit ", .line "ls"]

/-- One line in each minute. -/
def minutely : Clock := fun k => ⟨2024, 3, 5, 12, k, 0⟩

/-- Nothing behind the word to leave is answered. -/
theorem run_writes_leaving :
    wantsScript ["x", "--headless"] = false ∧ attended leaving = [.line "pwd", .interrupt] ∧
      ∃ s, firstSession ⟨2024, 3, 5, 12, 0, 0⟩ = .ok s ∧
        Writes (∀ l ∈ shown minutely s (attended leaving), IsWritable true l)
          (welcomeText ++ (transcript minutely true s (attended leaving) ++ farewell leaving))
          (run ⟨2024, 3, 5, 12, 0, 0⟩ minutely ["x", "--headless"] true leaving) :=
  ⟨rfl, rfl, run_writes ⟨2024, 3, 5, 12, 0, 0⟩ minutely ["x", "--headless"] true leaving rfl⟩

/-- A control sequence of zeros. -/
def zeros (n : Nat) : List Char := '\x1b' :: '[' :: (List.replicate n '0' ++ ['m'])

theorem isWord_zeros (n : Nat) : Text.IsWord (zeros n) := by
  refine ⟨List.cons_ne_nil _ _, fun c hc => ?_⟩
  simp only [zeros, List.mem_cons, List.mem_append, List.mem_replicate, List.not_mem_nil,
    or_false] at hc
  rcases hc with rfl | rfl | ⟨_, rfl⟩ | rfl <;> decide

theorem not_ends_echoLine (w : List Char) (hw : Text.IsWord w) :
    ends (.line (Session.echoLine w)) = false := by
  have htrim : trimmed (Session.echoLine w) = Session.echoLine w :=
    trimmed_two _ _ w Session.isWord_echo hw ' ' (Session.toList_echoLine w)
  rw [ends, leavesAt, htrim, beq_eq_false_iff_ne]
  intro h
  have hchars := congrArg String.toList h
  rw [Session.toList_echoLine] at hchars
  have hsecond : 'c' = 'x' := congrArg (fun cs => cs.getD 1 ' ') hchars
  exact absurd hsecond (by decide)

/-- Where control sequences are left out, the echo of too many zeros breaks the
    program off. -/
theorem run_zeros (now : Moment) (clock : Clock) (n : Nat) (hn : Text.maxDigits < n) :
    run now clock [] false [.line (Session.echoLine (zeros n))] = .error .tooManyDigits := by
  rcases firstSession_ok now with ⟨s, hfirst, hs, halias, hlines⟩
  have hattended : attended [.line (Session.echoLine (zeros n))] =
      [.line (Session.echoLine (zeros n))] := by
    rw [attended, List.takeWhile_cons_of_pos
      (by rw [not_ends_echoLine _ (isWord_zeros n)]; rfl), List.takeWhile_nil]
  have hlong : ∃ l ∈ shown clock s [.line (Session.echoLine (zeros n))], ¬ IsWritable false l := by
    have hcaps : s.config.lineCaps = .ok ⟨⟨500, by decide⟩, ⟨100, by decide⟩⟩ := by
      rw [hs.config]
      rfl
    have hname : s.handler? "echo" = none := by
      rw [Session.handler?, hs.handlers]
      rfl
    rcases hs.exists_prompt with ⟨prompt, hprompt⟩
    rcases Session.submit_echo (clock 0) s _ (zeros n) (isWord_zeros n) halias hname hcaps
      (by decide) prompt hprompt with ⟨l, hl⟩
    have hanswer : answerTo (clock 0) s (Session.echoLine (zeros n)) =
        [l, ⟨.output, s.nextLine, .str (String.ofList (zeros n))⟩] := by
      rw [answerTo, hl]
      rfl
    -- The line itself is on the console already, and the word is the next one.
    rw [shown, shown, hanswer, List.append_nil]
    refine ⟨_, List.mem_cons_self, ?_⟩
    rw [IsWritable, not_or, not_not]
    exact ⟨Bool.false_ne_true, isOverlong_zeros n hn⟩
  rw [run_eq_converse now clock [] false _ rfl s hfirst hlines]
  rcases converse_writes clock false s hs [.line (Session.echoLine (zeros n))] with
    ⟨hall, _⟩ | ⟨_, hbroke⟩
  · rw [hattended] at hall
    rcases hlong with ⟨l, hl, hno⟩
    exact absurd (hall l hl) hno
  · rw [hbroke]
    rfl

/-- With one zero more than there may be, it does. -/
theorem run_zeros_beyond :
    run ⟨2024, 3, 5, 12, 0, 0⟩ minutely [] false [.line (Session.echoLine (zeros 4301))] =
      .error .tooManyDigits :=
  run_zeros _ _ 4301 (by decide)

end Console

end SimTerm
