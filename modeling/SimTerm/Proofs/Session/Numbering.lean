import Mathlib.Data.List.Perm.Subperm
import SimTerm.Proofs.Session.Log
import SimTerm.Proofs.Session.Personas
import SimTerm.Proofs.Session.Shape

/-!
# Numbers of Lines

No two lines of a session have the same name.

Lines are lost in many ways. An answer is cut at a cap, the output forgets its
oldest lines, an empty screen forgets all of them, and a line that is run without
being entered is never written down. So what is left in the output says little
about the numbers that were given away, and the lines have to be counted where
they are made. `made` is that record: for a line of input all lines of its
answer, before the cap, and then the line that shows the input itself, which
stands in front of the answer and is made behind it.

Every line takes the next number when it is made, and nothing else changes that
number. So the lines that a step makes are numbered through from the next number
on, and the next number is past them when the step is done (`Numbers`). Such
steps can be put together, which is all there is to a run. What a step gives back
and what it writes down are some of the lines that it makes, in another order.
Lists of lines are compared up to order for this reason.

A name is the kind of a line with its number. No kind has a hyphen in it, so the
number is read back from behind the first one (`Line.number_eq_of_id`).

## Main definitions

* `Numbers`: A step makes lines that are numbered through.
* `uncut`: The lines that are made for a line of input.
* `madeBy`, `madeIn`, `made`: The lines that are made by an action, in a turn and
  in a run.
* `givenBy`, `givenIn`, `given`: The lines that are given back.

## Theorems

* `numbers_uncut`, `numbers_madeBy`, `numbers_made`: Lines are numbered through.
* `givenBy_subperm`, `output_subperm`: No other lines are given back or written
  down.
* `names_never_reused`: All lines of a run have different names.
* `names_never_reused_lost`: The same where lines are lost in all ways.
-/

namespace SimTerm

namespace Line

/-- Behind the kind, a name goes on with a hyphen and the number. -/
theorem dropWhile_id (l : Line) :
    l.id.toList.dropWhile (fun c => c != '-') = '-' :: (Nat.repr l.number).toList := by
  have hid : l.id.toList = l.kind.name.toList ++ '-' :: (Nat.repr l.number).toList := by
    rw [id, String.toList_append, String.toList_append, List.append_assoc]
    rfl
  rw [hid]
  cases l.kind <;> rfl

/-- The number of a line is read back from its name. -/
theorem number_eq_of_id (l m : Line) (h : l.id = m.id) : l.number = m.number := by
  have hdigits := l.dropWhile_id
  rw [h, m.dropWhile_id, List.cons.injEq] at hdigits
  have hrepr : Nat.repr m.number = Nat.repr l.number := String.toList_injective hdigits.2
  exact (Text.eq_of_toDigits_eq _ _ (String.ofList_injective hrepr)).symm

end Line

namespace Session

/-- Between two states of a session these lines were made: they have the next
    numbers, in order, and those numbers are used up. -/
structure Numbers (s s' : Session) (lines : List Line) : Prop where
  /-- The lines are numbered through. -/
  through : lines.map Line.number = List.range' s.nextLine lines.length
  /-- The next number comes behind them. -/
  next : s'.nextLine = s.nextLine + lines.length

/-- The lines that are made for a line of input, before any is cut off. -/
def uncut (s : Session) (now : Moment) (raw : String) : List Line :=
  match s.commandOf? raw, s.config.lineCaps with
  | some c, .ok caps => (s.runCommand now caps.maxCommandLength.val c).value.1
  | _, _ => []

/-- The lines that an action gives back. -/
def givenBy (s : Session) : Action → List Line
  | .submit now raw => (s.submit now raw).value.1.toOption.getD []
  | .dispatch now raw => ((s.dispatch now raw).toOption.map (fun a => a.value.1)).getD []
  | .welcome => (s.welcome.toOption.map Prod.fst).getD []
  | .render .. | .recallPrevious | .recallNext => []

/-- The lines that an action makes, in the order in which they are made. For a
    line that is entered, the line that shows it is made last and shown first.
    Without a prompt none are made for it. -/
def madeBy (s : Session) : Action → List Line
  | .submit now raw =>
    match s.prompt with
    | .ok _ => s.ready.uncut now raw ++ (s.givenBy (.submit now raw)).take 1
    | .error _ => []
  | .dispatch now raw => s.uncut now raw
  | .welcome => s.givenBy .welcome
  | .render .. | .recallPrevious | .recallNext => []

/-- The lines that are given back in a turn. -/
def givenIn (s : Session) : Turn → List Line
  | .happened (.acted a) => s.givenBy a
  | _ => []

/-- The lines that are made in a turn. -/
def madeIn (s : Session) : Turn → List Line
  | .happened (.acted a) => s.madeBy a
  | _ => []

/-- The lines that are given back in a run. -/
def given (s : Session) : List Turn → List Line
  | [] => []
  | t :: rest => s.givenIn t ++ (s.turn t).given rest

/-- The lines that are made in a run, in the order in which they are made. -/
def made (s : Session) : List Turn → List Line
  | [] => []
  | t :: rest => s.madeIn t ++ (s.turn t).made rest

/-! ### Making lines -/

theorem numbers_nil (s s' : Session) (h : s'.nextLine = s.nextLine) : Numbers s s' [] where
  through := rfl
  next := h

theorem Numbers.append {s s' s'' : Session} {lines more : List Line} (h : Numbers s s' lines)
    (h' : Numbers s' s'' more) : Numbers s s'' (lines ++ more) where
  through := by
    rw [List.map_append, h.through, h'.through, h.next, List.length_append,
      ← List.range'_append, Nat.one_mul]
  next := by
    rw [h'.next, h.next, List.length_append, Nat.add_assoc]

/-- What the lines are made in may differ in everything but the next number. -/
theorem Numbers.congr {s s' t t' : Session} {lines : List Line} (h : Numbers s s' lines)
    (hs : t.nextLine = s.nextLine) (hs' : t'.nextLine = s'.nextLine) : Numbers t t' lines where
  through := by rw [hs, h.through]
  next := by rw [hs, hs', h.next]

theorem makeLines_numbers (kind : LineKind) (start : Nat) (texts : List Json) :
    (makeLines kind start texts).map Line.number = List.range' start texts.length := by
  induction texts generalizing start with
  | nil => rfl
  | cons text rest ih => rw [makeLines, List.map_cons, ih, List.length_cons, List.range'_succ]

theorem length_makeLines (kind : LineKind) (start : Nat) (texts : List Json) :
    (makeLines kind start texts).length = texts.length := by
  rw [← List.length_map Line.text, makeLines_text]

theorem numbers_number (s : Session) (kind : LineKind) (texts : List Json) :
    Numbers s (s.number kind texts).2 (s.number kind texts).1 where
  through := by rw [number, length_makeLines, makeLines_numbers]
  next := by rw [number, length_makeLines]

@[simp] theorem ready_nextLine (s : Session) : s.ready.nextLine = s.nextLine := by
  simp only [ready]

@[simp] theorem remember_nextLine (s : Session) (raw : String) :
    (s.remember raw).nextLine = s.nextLine := by
  simp only [remember]

@[simp] theorem cleared_nextLine (s : Session) : s.cleared.nextLine = s.nextLine := by
  simp only [cleared]

@[simp] theorem record_nextLine (s : Session) (prompt raw : String) (answer : List Line) :
    (s.record prompt raw answer).2.nextLine = s.nextLine + 1 := by
  simp only [record, number, List.length_singleton]

theorem handle_nextLine (now : Moment) (h : Handler) (c : Command) (s : Session) :
    (s.handle now h c).value.2.nextLine = s.nextLine := by
  cases h with
  | builtin b => exact (ending_frame (perform_ending now c s b)).2
  | added run => rfl

theorem numbers_runCommand (now : Moment) (longest : Nat) (c : Command) (s : Session) :
    Numbers s (s.runCommand now longest c).value.2 (s.runCommand now longest c).value.1 := by
  unfold runCommand
  by_cases hlong : longest < c.name.length
  · rw [if_pos hlong]
    exact s.numbers_number _ _
  · rw [if_neg hlong]
    cases s.handler? c.name with
    | some h =>
        -- A command makes no lines itself, so its lines come next in any case.
        have hnext := handle_nextLine now h c s
        dsimp only
        unfold conclude
        cases (s.handle now h c).value.1 with
        | lines texts => exact (numbers_number _ _ _).congr hnext.symm rfl
        | refused err => exact (numbers_number _ _ _).congr hnext.symm rfl
        | broke => exact (numbers_number _ _ _).congr hnext.symm rfl
    | none =>
        by_cases hecho : isEcho c.name = true
        · simp only [if_pos hecho]
          exact s.numbers_number _ _
        · simp only [if_neg hecho]
          exact s.numbers_number _ _

/-- The answer to a line are the first of the lines that are made for it. -/
theorem numbers_uncut (now : Moment) (raw : String) (s : Session)
    (answer : Traced (List Line × Session)) (h : s.dispatch now raw = .ok answer) :
    Numbers s answer.value.2 (s.uncut now raw) ∧
      ∃ limit, answer.value.1 = (s.uncut now raw).take limit := by
  rcases dispatch_cases now raw s answer h with ⟨hnone, hanswer⟩ | ⟨c, caps, hc, hcaps, hanswer⟩
  · have huncut : s.uncut now raw = [] := by simp only [uncut, hnone]
    rw [hanswer, huncut]
    exact ⟨numbers_nil s s rfl, 0, rfl⟩
  · -- The cut takes lines away from the answer and gives none of their numbers back.
    have huncut : s.uncut now raw = (s.runCommand now caps.maxCommandLength.val c).value.1 := by
      simp only [uncut, hc, hcaps]
    rw [hanswer, huncut, cutAnswer_session]
    exact ⟨numbers_runCommand now _ c s, _, cutAnswer_lines _ _ _⟩

/-- Where a line cannot be run, no lines are made for it. -/
theorem uncut_of_error (now : Moment) (raw : String) (s : Session) (f : ConfigFault)
    (h : s.dispatch now raw = .error f) : s.uncut now raw = [] := by
  unfold dispatch at h
  unfold uncut
  cases hc : s.commandOf? raw with
  | none => rfl
  | some c =>
      cases hcaps : s.config.lineCaps with
      | error g => rfl
      | ok caps => simp only [hc, hcaps, reduceCtorEq] at h

/-! ### One action -/

/-- What entering a line makes and gives back: nothing, an answer that is not
    shown, or the line itself with as much of its answer as the cap allows. -/
theorem submit_made (now : Moment) (raw : String) (s : Session) :
    Numbers s (s.submit now raw).value.2 (s.madeBy (.submit now raw)) ∧
      (s.givenBy (.submit now raw)).Subperm (s.madeBy (.submit now raw)) := by
  rw [madeBy, givenBy]
  cases hprompt : s.prompt with
  | error u =>
      rw [submit_of_no_prompt now raw s u hprompt]
      exact ⟨numbers_nil _ _ rfl, List.nil_subperm⟩
  | ok prompt =>
  dsimp only
  rw [submit_of_prompt now raw s prompt hprompt]
  rcases submitAt_cases prompt now raw s with
    ⟨f, hf, h⟩ | ⟨answer, hrun, _, h⟩ | ⟨answer, hrun, _, h⟩
  · rw [h, uncut_of_error now raw s.ready f hf]
    exact ⟨numbers_nil _ _ rfl, List.nil_subperm⟩
  · rw [h]
    refine ⟨?_, List.nil_subperm⟩
    -- The answer was made, but it is not shown, and neither is the line.
    rw [show ((.ok [] : Except ConfigFault (List Line)).toOption.getD []).take 1 = [] from rfl,
      List.append_nil]
    exact (numbers_uncut now raw s.ready answer hrun).1.congr (by simp) (by simp)
  · rcases numbers_uncut now raw s.ready answer hrun with ⟨hnumbers, limit, hanswer⟩
    rw [h]
    simp only [record_lines, Except.toOption, Option.getD_some, List.take_succ_cons, List.take_zero]
    constructor
    · refine Numbers.append (hnumbers.congr (by simp) rfl) ⟨?_, by simp⟩
      simp only [List.map_singleton, remember_nextLine, List.length_singleton, List.range'_one]
    · -- The line itself comes first here and last there.
      rw [hanswer]
      refine (List.perm_append_singleton _ _).symm.subperm.trans ?_
      exact (List.subperm_append_right _).mpr (List.take_sublist _ _).subperm

theorem welcome_made (s : Session) :
    Numbers s (s.act .welcome) (s.madeBy .welcome) := by
  rw [act, madeBy, givenBy]
  unfold welcome
  cases s.config.terminal.demand with
  | error f => exact numbers_nil s s rfl
  | ok t => exact (s.numbers_number .output [t.welcomeMessage, .str welcomeHint]).congr rfl rfl

/-- The lines that an action makes are numbered through. -/
theorem numbers_madeBy (s : Session) (a : Action) : Numbers s (s.act a) (s.madeBy a) := by
  cases a with
  | submit now raw =>
      rw [act]
      exact (submit_made now raw s).1
  | dispatch now raw =>
      rw [act, madeBy]
      cases h : s.dispatch now raw with
      | error f =>
          rw [uncut_of_error now raw s f h]
          exact numbers_nil s s rfl
      | ok answer => exact (numbers_uncut now raw s answer h).1
  | welcome => exact s.welcome_made
  | render text => exact numbers_nil _ _ rfl
  | recallPrevious => exact numbers_nil _ _ rfl
  | recallNext => exact numbers_nil _ _ rfl

/-- An action gives back no lines but those that it makes. -/
theorem givenBy_subperm (s : Session) (a : Action) : (s.givenBy a).Subperm (s.madeBy a) := by
  cases a with
  | submit now raw => exact (submit_made now raw s).2
  | dispatch now raw =>
      rw [givenBy, madeBy]
      cases h : s.dispatch now raw with
      | error f => exact List.nil_subperm
      | ok answer =>
          rcases (numbers_uncut now raw s answer h).2 with ⟨limit, hanswer⟩
          have hgiven : ((Except.ok answer : Except ConfigFault _).toOption.map
              (fun a => a.value.1)).getD [] = (s.uncut now raw).take limit := hanswer
          rw [hgiven]
          exact (List.take_sublist _ _).subperm
  | welcome => exact List.Subperm.refl _
  | render text => exact List.nil_subperm
  | recallPrevious => exact List.nil_subperm
  | recallNext => exact List.nil_subperm

end Session

/-- A report adds no other lines to the output. -/
theorem OutputLog.heed_sublist (o : OutputLog) (report : List Line) :
    (o.heed report).lines.Sublist (o.lines ++ report) := by
  unfold heed
  split
  · exact List.nil_sublist _
  · exact List.drop_sublist _ _

namespace Session

/-- Nothing is written down but what is given back. -/
theorem act_output_sublist (s : Session) (a : Action) :
    (s.act a).output.lines.Sublist (s.output.lines ++ s.givenBy a) := by
  -- The output heeds at most one report, which has the lines that are given back.
  have hreport : (s.report? a).toList = [] ∨ (s.report? a).toList = [s.givenBy a] := by
    cases a with
    | submit now raw =>
        rw [report?, givenBy]
        cases (s.submit now raw).value.1 with
        | error f => exact .inl rfl
        | ok lines => exact .inr rfl
    | welcome =>
        rw [report?, givenBy]
        cases s.welcome with
        | error f => exact .inl rfl
        | ok r => exact .inr rfl
    | _ => exact .inl rfl
  rw [act_output]
  rcases hreport with h | h
  · rw [h, List.foldl_nil]
    exact List.sublist_append_left _ _
  · rw [h, List.foldl_cons, List.foldl_nil]
    exact OutputLog.heed_sublist _ _

/-! ### Turns and runs -/

theorem numbers_madeIn (s : Session) (t : Turn) : Numbers s (s.turn t) (s.madeIn t) := by
  cases t with
  | registered name run => exact numbers_nil _ _ rfl
  | operated op => exact numbers_nil _ _ rfl
  | happened h =>
      cases h with
      | acted a => exact s.numbers_madeBy a
      | filesReplaced files => exact numbers_nil _ _ rfl
      | settingReplaced store =>
          refine numbers_nil _ _ ?_
          rw [turn, undergo, observe]
          split <;> rfl

theorem givenIn_subperm (s : Session) (t : Turn) : (s.givenIn t).Subperm (s.madeIn t) := by
  unfold givenIn madeIn
  split
  · exact s.givenBy_subperm _
  · exact List.nil_subperm

theorem turn_output_subperm (s : Session) (t : Turn) :
    (s.turn t).output.lines.Subperm (s.output.lines ++ s.madeIn t) := by
  cases t with
  | registered name run => exact (List.sublist_append_left _ _).subperm
  | operated op => exact (List.sublist_append_left _ _).subperm
  | happened h =>
      cases h with
      | acted a =>
          refine (s.act_output_sublist a).subperm.trans ?_
          exact (List.subperm_append_left _).mpr (s.givenBy_subperm a)
      | filesReplaced files => exact (List.sublist_append_left _ _).subperm
      | settingReplaced store =>
          have houtput : (s.turn (.happened (.settingReplaced store))).output = s.output := by
            rw [turn, undergo, observe]
            split <;> rfl
          rw [houtput]
          exact (List.sublist_append_left _ _).subperm

/-- The lines of a run are numbered through. -/
theorem numbers_made (s : Session) (turns : List Turn) :
    Numbers s (turns.foldl turn s) (s.made turns) := by
  induction turns generalizing s with
  | nil => exact numbers_nil s s rfl
  | cons t rest ih => exact (s.numbers_madeIn t).append (ih (s.turn t))

theorem given_subperm (s : Session) (turns : List Turn) : (s.given turns).Subperm (s.made turns) := by
  induction turns generalizing s with
  | nil => exact List.nil_subperm
  | cons t rest ih => exact (s.givenIn_subperm t).append (ih (s.turn t))

/-- What is in the output after a run was there before or was made in the run. -/
theorem output_subperm (s : Session) (turns : List Turn) :
    (turns.foldl turn s).output.lines.Subperm (s.output.lines ++ s.made turns) := by
  induction turns generalizing s with
  | nil => exact (List.sublist_append_left _ _).subperm
  | cons t rest ih =>
      rw [List.foldl_cons, made, ← List.append_assoc]
      refine (ih (s.turn t)).trans ?_
      exact (List.subperm_append_right _).mpr (s.turn_output_subperm t)

/-! ### Names -/

/-- Lines that are numbered through have different names. -/
theorem Numbers.nodup {s s' : Session} {lines : List Line} (h : Numbers s s' lines) :
    (lines.map Line.id).Nodup := by
  have hnumbers : (lines.map Line.number).Nodup := by
    rw [h.through]
    exact List.nodup_range'
  rw [List.Nodup, List.pairwise_map] at hnumbers ⊢
  exact hnumbers.imp (fun hne hid => hne (Line.number_eq_of_id _ _ hid))

/-- Some of the lines that have different names have different names. -/
theorem nodup_of_subperm {lines all : List Line} (hsub : lines.Subperm all)
    (h : (all.map Line.id).Nodup) : (lines.map Line.id).Nodup := by
  rcases hsub with ⟨sorted, hperm, hsublist⟩
  exact (hperm.map Line.id).nodup_iff.mp (h.sublist (hsublist.map Line.id))

/-- No two lines of a session have the same name. In every run from a new
    session, the line that is made as the `k`-th has the number `k`, and its name
    ends with it; all lines that are made have different names, and the session
    has counted no others. All lines that were given back, and all that are in
    the output, are among them, and none is there twice. -/
theorem names_never_reused (id : String) (c : Config) (isWatching : Bool) (now : Moment)
    (s : Session) (h : ofConfig id c isWatching now = .ok s) (turns : List Turn) :
    (∀ k l, (s.made turns)[k]? = some l →
        l.number = k + 1 ∧ l.id = l.kind.name ++ "-" ++ toString (k + 1)) ∧
      ((s.made turns).map Line.id).Nodup ∧
      (turns.foldl turn s).nextLine = (s.made turns).length + 1 ∧
      (s.given turns).Subperm (s.made turns) ∧
      (turns.foldl turn s).output.lines.Subperm (s.made turns) ∧
      ((turns.foldl turn s).output.lines.map Line.id).Nodup := by
  rcases ofConfig_eq id c isWatching now s h with ⟨files, shell, kept, remembered, hs⟩
  have hfirst : s.nextLine = 1 := by rw [hs]
  have hempty : s.output.lines = [] := by rw [hs]
  have hnumbers := s.numbers_made turns
  have houtput := s.output_subperm turns
  rw [hempty, List.nil_append] at houtput
  refine ⟨fun k l hl => ?_, hnumbers.nodup, ?_, s.given_subperm turns, houtput,
    nodup_of_subperm houtput hnumbers.nodup⟩
  · have hk : ((s.made turns).map Line.number)[k]? = some l.number := by
      rw [List.getElem?_map, hl, Option.map_some]
    have hlen : k < (s.made turns).length := (List.getElem?_eq_some_iff.mp hl).1
    rw [hnumbers.through, hfirst, List.getElem?_range' hlen, Option.some.injEq] at hk
    have hnumber : l.number = k + 1 := by omega
    exact ⟨hnumber, by rw [Line.id, hnumber]⟩
  · rw [hnumbers.next, hfirst, Nat.add_comm]

/-- A configuration with room for three lines of output and three of an answer. -/
def scant : Config :=
  { session := .settings { maxOutputLines := .int 3, maxDispatchLines := .int 3 } }

/-- A welcome that is cleared away, a line that is not entered, an answer that is
    cut off, and more lines than there is room for. -/
def losing : List Turn :=
  [.happened (.acted .welcome), .happened (.acted (.dispatch noon "nope")),
    .happened (.acted (.submit noon "clear")), .happened (.acted (.submit noon "themes")),
    .happened (.acted (.submit noon "echo"))]

/-- One line of an answer is cut off, and the others are lost in other ways or
    are still there. None of them has the name of another one. -/
theorem names_never_reused_lost :
    ∃ s, ofConfig "1" scant false noon = .ok s ∧
      (s.made losing).map Line.id =
        ["output-1", "output-2", "error-3", "output-4", "output-5", "output-6", "output-7",
          "command-8", "output-9", "command-10"] ∧
      (losing.foldl turn s).output.lines.map Line.id = ["output-6", "command-10", "output-9"] ∧
      (losing.foldl turn s).nextLine = 11 ∧
      (s.given losing).Subperm (s.made losing) ∧
      ((s.made losing).map Line.id).Nodup := by
  have hnew : ∃ s, ofConfig "1" scant false noon = .ok s ∧
      (s.made losing).map Line.id =
        ["output-1", "output-2", "error-3", "output-4", "output-5", "output-6", "output-7",
          "command-8", "output-9", "command-10"] ∧
      (losing.foldl turn s).output.lines.map Line.id = ["output-6", "command-10", "output-9"] :=
    ⟨_, rfl, rfl, rfl⟩
  rcases hnew with ⟨s, hs, hmade, houtput⟩
  rcases names_never_reused "1" scant false noon s hs losing with ⟨_, hnodup, hnext, hgiven, _⟩
  refine ⟨s, hs, hmade, houtput, ?_, hgiven, hnodup⟩
  rw [hnext, ← List.length_map Line.id, hmade]
  rfl

end Session

end SimTerm
