import SimTerm.Proofs.Fields
import SimTerm.Proofs.Session.Call
import SimTerm.Proofs.Session.Opening
import SimTerm.Proofs.Shell.Prompt

/-!
# The Shape of an Answer

What a line of input is answered with, whatever it says and whatever the
session is like.

A line is either shown or it empties the screen. A request for an empty screen
is what one command leaves behind and no other (`perform_clearRequested`), and
entering a line forgets about an older request first. So the screen is emptied
exactly by the lines that call this command, which is a question about their
word and the cap on names. It takes a vocabulary in which the command has kept
its name (`ClearsByName`), as it has in every run (`Reachable.clearsByName`)
and also with other commands added.

A line that is shown stands in front of its answer. The answer has no more than
three forms (`Answered`). Where a command makes texts, each of them is one line
of output, and the cap on an answer cuts them behind the last one that it
allows; the cap is never too small for a single error line.

## Main definitions

* `Makes`: The texts that a command makes.
* `Answered`: The forms of an answer.
* `ClearsByName`: One name empties the screen and no other does.

## Theorems

* `runCommand_makes`: A command makes texts or one error line.
* `dispatch_answered`: So a line is answered in one of the forms.
* `perform_clearRequested`: What leaves a request for an empty screen behind.
* `Reachable.clearsByName`: The vocabulary of every run.
* `submit_shape`: What entering a line comes to.
* `submit_shape_requested`: The same with a request that was left behind.
-/

namespace SimTerm

namespace Session

/-- The texts that a command makes in a session. -/
inductive Makes (now : Moment) (s : Session) (c : Command) : List Json → Prop where
  /-- Something runs under its name, and these are the texts that it ends with. -/
  | ran (h : Handler) (texts : List Json) (hname : s.handler? c.name = some h)
      (hends : (s.handle now h c).value.1 = .lines texts) : Makes now s c texts
  /-- Nothing runs under its name, which stands for an echo of what follows it. -/
  | echoed (hname : s.handler? c.name = none) (hecho : isEcho c.name = true) :
      Makes now s c [.str c.remainder]

/-- How a line is answered. -/
inductive Answered (now : Moment) (s : Session) (raw : String) (limit : Nat) :
    List Line → Prop where
  /-- With nothing, as it calls nothing. -/
  | nothing (hblank : s.commandOf? raw = none) : Answered now s raw limit []
  /-- With one error line. -/
  | failure (l : Line) (hkind : l.kind = .error) : Answered now s raw limit [l]
  /-- With lines of output, which show the texts that its command makes, from the
      first one on and as many as the cap allows. -/
  | output (c : Command) (texts : List Json) (lines : List Line)
      (hc : s.commandOf? raw = some c) (hmade : s.Makes now c texts)
      (hkind : ∀ l ∈ lines, l.kind = .output) (hcap : lines.length ≤ limit)
      (hshown : lines.map Line.text = texts.take limit) : Answered now s raw limit lines

/-- The screen is emptied under its own name and under no other. -/
def ClearsByName (s : Session) : Prop :=
  ∀ name, s.handler? name = some (.builtin .clear) ↔ name = "clear"

/-! ### Lines -/

theorem makeLines_text (kind : LineKind) (start : Nat) (texts : List Json) :
    (makeLines kind start texts).map Line.text = texts := by
  induction texts generalizing start with
  | nil => rfl
  | cons text rest ih => rw [makeLines, List.map_cons, ih]

theorem cutAnswer_lines (limit : Nat) (c : Command) (answer : Traced (List Line × Session)) :
    (cutAnswer limit c answer).value.1 = answer.value.1.take limit := by
  unfold cutAnswer
  dsimp only
  by_cases hcut : limit < answer.value.1.length
  · rw [if_pos hcut]
  · rw [if_neg hcut, List.take_of_length_le (Nat.not_lt.mp hcut)]

/-- A command makes texts, with a line of output for each, or one error line. -/
theorem runCommand_makes (now : Moment) (longest : Nat) (c : Command) (s : Session) :
    (∃ l, (s.runCommand now longest c).value.1 = [l] ∧ l.kind = .error) ∨
      ∃ texts start, s.Makes now c texts ∧
        (s.runCommand now longest c).value.1 = makeLines .output start texts := by
  unfold runCommand
  by_cases hlong : longest < c.name.length
  · rw [if_pos hlong]
    exact .inl ⟨_, rfl, rfl⟩
  · rw [if_neg hlong]
    cases hname : s.handler? c.name with
    | some h =>
        dsimp only
        unfold conclude
        cases hends : (s.handle now h c).value.1 with
        | lines texts => exact .inr ⟨texts, _, .ran h texts hname hends, rfl⟩
        | refused e => exact .inl ⟨_, rfl, rfl⟩
        | broke => exact .inl ⟨_, rfl, rfl⟩
    | none =>
        by_cases hecho : isEcho c.name = true
        · simp only [if_pos hecho]
          exact .inr ⟨_, _, .echoed hname hecho, rfl⟩
        · simp only [if_neg hecho]
          exact .inl ⟨_, rfl, rfl⟩

/-- A line is answered in one of the forms. -/
theorem dispatch_answered (now : Moment) (raw : String) (s : Session) (caps : LineCaps)
    (hcaps : s.config.lineCaps = .ok caps) (answer : Traced (List Line × Session))
    (h : s.dispatch now raw = .ok answer) :
    Answered now s raw caps.maxDispatchLines.val answer.value.1 := by
  rcases dispatch_cases now raw s answer h with ⟨hnone, hanswer⟩ | ⟨c, caps', hc, hcaps', hanswer⟩
  · rw [hanswer]
    exact .nothing hnone
  · rw [hcaps, Except.ok.injEq] at hcaps'
    rw [hanswer, ← hcaps', cutAnswer_lines]
    rcases runCommand_makes now caps.maxCommandLength.val c s with
      ⟨l, hl, hkind⟩ | ⟨texts, start, hmade, hlines⟩
    · -- The cap lets at least one line through.
      rw [hl, List.take_of_length_le caps.maxDispatchLines.pos]
      exact .failure l hkind
    · rw [hlines]
      refine .output c texts _ hc hmade ?_ (List.length_take_le _ _) ?_
      · exact fun l hl => makeLines_output start texts l (List.mem_of_mem_take hl)
      · rw [List.map_take, makeLines_text]

/-! ### Requests for an empty screen -/

/-- A request for an empty screen is left by its own command and taken back by none. -/
theorem perform_clearRequested (now : Moment) (b : Builtin) (c : Command) (s : Session) :
    (s.perform now b c).value.2.clearRequested = (s.clearRequested || b == .clear) := by
  by_cases hb : b = .clear
  · rw [hb, beq_self_eq_true, Bool.or_true]
    rfl
  · rw [beq_eq_false_iff_ne.mpr hb, Bool.or_false]
    have hend := perform_ending now c s b
    generalize (s.perform now b c).value.1 = o at hend
    generalize (s.perform now b c).value.2 = s' at hend
    cases hend with
    | cleared => exact absurd rfl hb
    | _ => rfl

/-- After a line a request is there exactly if the line called for it. -/
theorem dispatch_clearRequested (now : Moment) (raw : String) (s : Session)
    (answer : Traced (List Line × Session)) (h : s.ready.dispatch now raw = .ok answer) :
    answer.value.2.clearRequested = true ↔ ∃ c, s.called? raw = some (.clear, c) := by
  have hsame := called?_ready s raw
  rcases dispatch_called now raw s.ready answer h with
    ⟨b, c, n, hcall, hafter⟩ | ⟨hcall, n, hafter⟩
  · have hrequest : answer.value.2.clearRequested = (b == .clear) := by
      rw [hafter]
      exact perform_clearRequested now b c s.ready
    rw [hrequest, ← hsame, hcall, beq_iff_eq]
    simp only [Option.some.injEq, Prod.mk.injEq, exists_and_left, exists_eq', and_true]
  · rw [hafter, ← hsame, hcall]
    simp only [ready, Bool.false_eq_true, reduceCtorEq, exists_false]

/-- The command that empties the screen is called by its name, if the cap on
    names allows for it. -/
theorem called?_clear_iff (s : Session) (caps : LineCaps)
    (hcaps : s.config.lineCaps = .ok caps) (hclear : s.ClearsByName) (raw : String) :
    (∃ c, s.called? raw = some (.clear, c)) ↔
      s.word raw = "clear" ∧ "clear".length ≤ caps.maxCommandLength.val := by
  constructor
  · rintro ⟨c, hcall⟩
    rcases (called?_eq_some_iff s raw .clear c).mp hcall with ⟨caps', hcaps', hc, hshort, hname⟩
    rw [hcaps, Except.ok.injEq] at hcaps'
    have hword : c.name = "clear" := (hclear c.name).mp hname
    rw [hword, ← hcaps'] at hshort
    rw [commandOf?_eq_some s raw c hc] at hword
    exact ⟨hword, hshort⟩
  · rintro ⟨hword, hshort⟩
    have hc : s.commandOf? raw = some (s.expanded raw) := by
      rw [commandOf?_eq, hword]
      rfl
    have hname : (s.expanded raw).name = "clear" := hword
    refine ⟨s.expanded raw, (called?_eq_some_iff _ _ _ _).mpr ⟨caps, hcaps, hc, ?_, ?_⟩⟩
    · rw [hname]
      exact hshort
    · rw [hname]
      exact (hclear "clear").mpr rfl

/-! ### The vocabulary -/

/-- In every state of every run the screen is emptied by its name. -/
theorem Reachable.clearsByName (s : Session) (hs : s.Reachable) : s.ClearsByName := by
  intro name
  constructor
  · intro h
    have hmem := Fields.mem_of_get? s.handlers name _ h
    rw [hs.handlers, standardHandlers, List.mem_map] at hmem
    rcases hmem with ⟨b, _, hb⟩
    -- What runs under a name of the vocabulary is what the name is of.
    simp only [Prod.mk.injEq, Handler.builtin.injEq] at hb
    rw [← hb.1, hb.2]
    rfl
  · rintro rfl
    exact hs.handler?_builtin s .clear

/-- Adding a command under another name does not change that. -/
theorem ClearsByName.register {s : Session} (hs : s.ClearsByName) (name : String)
    (run : Command → Outcome) (hname : lowered name ≠ "clear") :
    (s.register name run).ClearsByName := by
  intro other
  rw [handler?, Session.register, Fields.get?_set]
  by_cases h : lowered name = other
  · rw [if_pos h, ← h]
    exact ⟨fun h => absurd (Option.some.inj h) Handler.noConfusion, fun h => absurd h hname⟩
  · rw [if_neg h]
    exact hs other

/-! ### Entering a line -/

theorem remember_history (s : Session) (raw : String) :
    (s.remember raw).history = (s.history.push (trimmed raw)).2 := by
  rw [remember]

theorem record_history (s : Session) (prompt raw : String) (answer : List Line) :
    (s.record prompt raw answer).2.history = s.history := by
  simp only [record, number]

theorem record_clearRequested (s : Session) (prompt raw : String) (answer : List Line) :
    (s.record prompt raw answer).2.clearRequested = s.clearRequested := by
  simp only [record, number]

/-- A line that is shown stands in front of its answer. -/
theorem record_lines (s : Session) (prompt raw : String) (answer : List Line) :
    (s.record prompt raw answer).1 =
      ⟨.command, s.nextLine, .str (prompt ++ " " ++ raw)⟩ :: answer := by
  simp only [record, number, makeLines, List.cons_append, List.nil_append]

/-- What entering a line comes to, where the names in the prompt can be written.
    There is a prompt then. The screen is emptied and nothing is shown exactly for
    the word that asks for it, if the cap on names lets it pass. Any other line is
    shown behind the prompt, and then its answer. In both
    cases the trimmed line was entered into the history, recalling has stopped,
    and no request is left. -/
theorem submit_shape (s : Session) (hvalid : s.config.validate = .ok ())
    (hnames : s.shell.settings.IsWritable) (hclear : s.ClearsByName) (now : Moment)
    (raw : String) :
    ∃ caps prompt, s.config.lineCaps = .ok caps ∧ s.prompt = .ok prompt ∧
      ((s.submit now raw).value.1 = .ok [] ↔
        s.word raw = "clear" ∧ 5 ≤ caps.maxCommandLength.val) ∧
      ((s.submit now raw).value.1 = .ok [] ∨
        ∃ echo lines, (s.submit now raw).value.1 = .ok (echo :: lines) ∧
          echo.kind = .command ∧ echo.text = .str (prompt ++ " " ++ raw) ∧
          Answered now s.ready raw caps.maxDispatchLines.val lines) ∧
      (s.submit now raw).value.2.history = (s.history.push (trimmed raw)).2 ∧
      (s.submit now raw).value.2.history.cursor = none ∧
      (s.submit now raw).value.2.clearRequested = false := by
  rcases Config.lineCaps_of_validate _ hvalid with ⟨caps, hcaps⟩
  rcases (s.shell.exists_prompt_iff s.files.cwdText).mpr (.inr hnames) with ⟨prompt, hprompt⟩
  have hcursor : (s.history.push (trimmed raw)).2.cursor = none := by
    unfold History.push
    dsimp only
    split <;> rfl
  have hcall := called?_clear_iff s caps hcaps hclear raw
  refine ⟨caps, prompt, hcaps, hprompt, ?_⟩
  rw [submit_of_prompt now raw s prompt hprompt]
  rcases submitAt_cases prompt now raw s with
    ⟨f, _, h⟩ | ⟨answer, hanswer, hrequest, h⟩ | ⟨answer, hanswer, hrequest, h⟩
  · -- The caps are there, so the line could be run.
    rcases submit_ok now raw s caps hcaps prompt hprompt with ⟨lines, hlines⟩
    rw [submit_of_prompt now raw s prompt hprompt, h] at hlines
    exact absurd hlines (by simp only [reduceCtorEq, not_false_eq_true])
  · have hasked := hcall.mp ((dispatch_clearRequested now raw s answer hanswer).mp hrequest)
    have hhistory : (answer.value.2.remember raw).cleared.history =
        (s.history.push (trimmed raw)).2 := by
      rw [cleared, remember_history, (dispatch_frame now raw s.ready answer hanswer).history]
      rfl
    rw [h, hhistory]
    exact ⟨iff_of_true rfl hasked, .inl rfl, rfl, hcursor, rfl⟩
  · have hasked : ¬ (s.word raw = "clear" ∧ 5 ≤ caps.maxCommandLength.val) := by
      intro hword
      have hcleared := (dispatch_clearRequested now raw s answer hanswer).mpr (hcall.mpr hword)
      rw [hrequest] at hcleared
      exact Bool.false_ne_true hcleared
    have hhistory : ((answer.value.2.remember raw).record prompt raw answer.value.1).2.history =
        (s.history.push (trimmed raw)).2 := by
      rw [record_history, remember_history,
        (dispatch_frame now raw s.ready answer hanswer).history]
      rfl
    rw [h, hhistory, record_clearRequested, remember_clearRequested, record_lines]
    refine ⟨iff_of_false ?_ hasked, .inr ⟨_, answer.value.1, rfl, rfl, rfl, ?_⟩, rfl, hcursor,
      hrequest⟩
    · rw [Except.ok.injEq]
      exact List.cons_ne_nil _ _
    · exact dispatch_answered now raw s.ready caps hcaps answer hanswer

/-- A session with an alias for the command that empties the screen, after that
    command was run without being entered. -/
def requested : Session :=
  untouched.run [.submit noon "alias cls=CLEAR", .dispatch noon "clear"]

/-- A request that was left behind does not keep a line from being shown, and
    an alias in front of other words empties the screen. -/
theorem submit_shape_requested :
    (requested.clearRequested = true ∧ requested.config.validate = .ok () ∧
      requested.shell.settings.IsWritable ∧ requested.ClearsByName) ∧
    (requested.submit noon " cls  now").value.1 = .ok [] ∧
    (∃ echo lines, (requested.submit noon "cat none").value.1 = .ok (echo :: lines) ∧
      echo.text = .str "user@hyper-terminal:/$ cat none" ∧
      Answered noon requested.ready "cat none" 500 lines) ∧
    (requested.submit noon "cat none").value.2.clearRequested = false := by
  have hvalid : requested.config.validate = .ok () := by rfl
  have hclear : requested.ClearsByName :=
    Reachable.clearsByName _ ⟨"1", {}, false, noon, _, _, by rfl, by rfl⟩
  have hnames : requested.shell.settings.IsWritable :=
    ShellSettings.isWritable_of_texts _ "user" "hyper-terminal" (by rfl) (by rfl)
  rcases submit_shape requested hvalid hnames hclear noon " cls  now" with
    ⟨caps, _, hcaps, _, hempty, _⟩
  rcases submit_shape requested hvalid hnames hclear noon "cat none" with
    ⟨caps', prompt, hcaps', hprompt, hempty', hform, _, _, hrequest⟩
  have hstandard : requested.config.lineCaps = .ok ⟨⟨500, by decide⟩, ⟨100, by decide⟩⟩ := by rfl
  have hshown : requested.prompt = .ok "user@hyper-terminal:/$" := by rfl
  rw [hstandard, Except.ok.injEq] at hcaps hcaps'
  rw [hshown, Except.ok.injEq] at hprompt
  rw [← hcaps] at hempty
  rw [← hcaps'] at hempty' hform
  rw [← hprompt] at hform
  refine ⟨⟨by rfl, hvalid, hnames, hclear⟩, hempty.mpr ⟨by rfl, by decide⟩, ?_, hrequest⟩
  rcases hform with hnothing | ⟨echo, lines, hlines, _, htext, hanswered⟩
  · have hword : requested.word "cat none" = "cat" := by rfl
    rw [hempty', hword] at hnothing
    exact absurd hnothing.1 (by decide)
  · exact ⟨echo, lines, hlines, htext, hanswered⟩

end Session

end SimTerm
