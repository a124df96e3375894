import Mathlib.Data.List.DropRight
import Mathlib.Data.List.Induction
import SimTerm.Proofs.Session.Run

/-!
# What the Output Holds

The output of a session is what its actions have reported, as far as it goes
back.

An action reports the lines that it gives back and writes down at the same
time: a line that is entered does, and so does a welcome. All other actions
report nothing, also when they give lines back. `act_output` says that the
report is all that an action does to the output, and that an empty report
empties it. So the output after a run depends on the reports alone
(`run_output`), and what is left is a law on lists.

That law has to bring two ways of forgetting together. The output forgets from
the front, a few lines with each report, and everything at once when a report
is empty. An unbounded record of the reports forgets nothing, and the output
is cut out of it at the end: the reports after the last empty one, and of
their lines the last ones up to the cap. Cutting early and cutting late agree
because lines that have been dropped once would be dropped later, too
(`keepLast_keepLast_append`).

A request for an empty screen that a line has left behind without being
entered is not heeded: entering the next line takes it back first.

## Main definitions

* `OutputLog.heed`: The output after a report.
* `sinceEmpty`: The reports after the last empty one.
* `report?`, `reports`: What an action and a run report.
* `Action.isSilent`: The actions that never report.

## Theorems

* `foldl_heed_lines`: Cutting with each report is cutting once at the end.
* `act_output`: The report is all that an action does to the output.
* `run_output`: And so it is for a run.
* `output_follows_reports`: The output is the end of what was reported.
* `output_follows_reports_narrow`: The same in a session with little room.
-/

namespace SimTerm

/-- The reports after the last empty one. -/
def sinceEmpty (reports : List (List Line)) : List (List Line) :=
  reports.rtakeWhile (fun r => !r.isEmpty)

theorem sinceEmpty_concat_nil (reports : List (List Line)) : sinceEmpty (reports ++ [[]]) = [] :=
  List.rtakeWhile_concat_neg _ _ _ Bool.false_ne_true

theorem sinceEmpty_concat (reports : List (List Line)) (r : List Line) (hr : r ≠ []) :
    sinceEmpty (reports ++ [r]) = sinceEmpty reports ++ [r] :=
  List.rtakeWhile_concat_pos _ _ _ (by rw [Bool.not_eq_true', List.isEmpty_eq_false_iff]; exact hr)

/-- An empty report in front counts for nothing. -/
theorem sinceEmpty_nil_cons (reports : List (List Line)) :
    sinceEmpty ([] :: reports) = sinceEmpty reports := by
  induction reports using List.reverseRecOn with
  | nil => rfl
  | append_singleton rest r ih =>
      rw [← List.cons_append]
      by_cases hr : r = []
      · rw [hr, sinceEmpty_concat_nil, sinceEmpty_concat_nil]
      · rw [sinceEmpty_concat _ r hr, sinceEmpty_concat _ r hr, ih]

namespace OutputLog

/-- The output after a report: emptied if nothing is reported, and with the
    reported lines at its end otherwise. -/
def heed (o : OutputLog) (report : List Line) : OutputLog :=
  if report.isEmpty then o.clear else o.extend report

@[simp] theorem heed_capacity (o : OutputLog) (report : List Line) :
    (o.heed report).capacity = o.capacity := by
  unfold heed
  split <;> rfl

theorem foldl_heed_capacity (o : OutputLog) (reports : List (List Line)) :
    (reports.foldl heed o).capacity = o.capacity := by
  induction reports generalizing o with
  | nil => rfl
  | cons r rest ih => rw [List.foldl_cons, ih, heed_capacity]

/-- Cutting the output with each report is cutting it once at the end. What
    was in it at the start is like a first report. -/
theorem foldl_heed_lines (o : OutputLog) (ho : o.lines.length ≤ o.capacity)
    (reports : List (List Line)) :
    (reports.foldl heed o).lines =
      keepLast o.capacity (sinceEmpty (o.lines :: reports)).flatten := by
  induction reports using List.reverseRecOn with
  | nil =>
      by_cases hlines : o.lines = []
      · rw [List.foldl_nil, hlines, sinceEmpty_nil_cons]
        exact (keepLast_nil _).symm
      · have hsince : sinceEmpty [o.lines] = [o.lines] := sinceEmpty_concat [] o.lines hlines
        rw [List.foldl_nil, hsince, List.flatten_singleton, keepLast_of_length_le _ _ ho]
  | append_singleton rest r ih =>
      rw [List.foldl_concat, ← List.cons_append]
      by_cases hr : r = []
      · rw [hr, sinceEmpty_concat_nil]
        exact (keepLast_nil _).symm
      · rw [sinceEmpty_concat _ r hr, List.flatten_append, List.flatten_singleton,
          ← keepLast_keepLast_append, ← ih, heed, if_neg (by rw [List.isEmpty_iff]; exact hr),
          extend, foldl_heed_capacity]

end OutputLog

namespace Session

/-- The lines that an action reports, if it reports at all. -/
def report? (s : Session) : Action → Option (List Line)
  | .submit now raw => (s.submit now raw).value.1.toOption
  | .welcome => s.welcome.toOption.map Prod.fst
  | .dispatch .. | .render .. | .recallPrevious | .recallNext => none

/-- What is reported in a run, in order. -/
def reports (s : Session) : List Action → List (List Line)
  | [] => []
  | a :: rest => (s.report? a).toList ++ (s.act a).reports rest

/-- Whether an action never reports. -/
def Action.isSilent : Action → Bool
  | .submit .. | .welcome => false
  | .dispatch .. | .render .. | .recallPrevious | .recallNext => true

/-! ### One action -/

theorem submit_output (now : Moment) (raw : String) (s : Session) :
    (s.submit now raw).value.2.output =
      (s.submit now raw).value.1.toOption.toList.foldl OutputLog.heed s.output := by
  rcases submit_cases now raw s with
    ⟨u, _, h⟩ | ⟨f, _, h⟩ | ⟨answer, hrun, _, h⟩ | ⟨prompt, answer, _, hrun, _, h⟩
  · rw [h]
    rfl
  · rw [h]
    rfl
  · -- The lines of the answer are not shown, and all others are gone.
    rw [h]
    have houtput : answer.value.2.output = s.output := (dispatch_frame now raw _ answer hrun).output
    simp only [remember, cleared, houtput]
    rfl
  · rw [h]
    have houtput : answer.value.2.output = s.output := (dispatch_frame now raw _ answer hrun).output
    simp only [remember, record, number, houtput]
    rfl

theorem welcome_output (s : Session) (lines : List Line) (s' : Session)
    (h : s.welcome = .ok (lines, s')) : s'.output = s.output.heed lines := by
  unfold welcome at h
  cases ht : s.config.terminal.demand with
  | error f => simp only [ht, reduceCtorEq] at h
  | ok t =>
      simp only [ht, Except.ok.injEq, Prod.mk.injEq] at h
      rw [← h.2, ← h.1]
      rfl

/-- The report of an action is all that the action does to the output. -/
theorem act_output (s : Session) (a : Action) :
    (s.act a).output = (s.report? a).toList.foldl OutputLog.heed s.output := by
  cases a with
  | submit now raw =>
      simp only [act, report?]
      exact submit_output now raw s
  | dispatch now raw =>
      simp only [act, report?]
      cases h : s.dispatch now raw with
      | error f => rfl
      | ok answer => exact (dispatch_frame now raw s answer h).output
  | welcome =>
      simp only [act, report?]
      cases h : s.welcome with
      | error f => rfl
      | ok r => exact welcome_output s r.1 r.2 h
  | render text => rfl
  | recallPrevious => rfl
  | recallNext => rfl

theorem act_output_of_silent (s : Session) (a : Action) (ha : a.isSilent = true) :
    (s.act a).output = s.output := by
  rw [act_output]
  cases a with
  | submit now raw => exact absurd ha Bool.false_ne_true
  | welcome => exact absurd ha Bool.false_ne_true
  | _ => rfl

/-! ### A run -/

/-- The reports of a run are all that the run does to the output. -/
theorem run_output (s : Session) (actions : List Action) :
    (s.run actions).output = (s.reports actions).foldl OutputLog.heed s.output := by
  induction actions generalizing s with
  | nil => rfl
  | cons a rest ih =>
      rw [run, List.foldl_cons, reports, List.foldl_append, ← act_output]
      exact ih (s.act a)

/-- The output of a session is the end of what was reported since it was last
    emptied, as much of it as the cap allows, and the cap stays what it was.
    Lines that are run without being entered, texts that are rendered and
    commands that are recalled leave the output alone. -/
theorem output_follows_reports (id : String) (c : Config) (isWatching : Bool) (now : Moment)
    (s : Session) (h : ofConfig id c isWatching now = .ok s) (actions : List Action) :
    (s.run actions).output.lines =
        keepLast s.output.capacity (sinceEmpty (s.reports actions)).flatten ∧
      (s.run actions).output.capacity = s.output.capacity ∧
      ∀ a, a.isSilent = true → ((s.run actions).act a).output = (s.run actions).output := by
  rcases ofConfig_eq id c isWatching now s h with ⟨files, shell, kept, remembered, hs⟩
  have hempty : s.output.lines = [] := by rw [hs]
  refine ⟨?_, ?_, fun a ha => act_output_of_silent _ a ha⟩
  · rw [run_output, OutputLog.foldl_heed_lines _ (by rw [hempty]; exact Nat.zero_le _), hempty,
      sinceEmpty_nil_cons]
  · rw [run_output, OutputLog.foldl_heed_capacity]

/-- A configuration with room for two lines of output. -/
def narrow : Config := { session := .settings { maxOutputLines := .int 2 } }

/-- A welcome that is cleared away, a request for an empty screen that is not
    entered, and a line with a long answer. -/
def clearedActions : List Action :=
  [.welcome, .submit ⟨2024, 3, 5, 12, 0, 0⟩ "clear", .dispatch ⟨2024, 3, 5, 12, 0, 0⟩ "clear",
    .submit ⟨2024, 3, 5, 12, 0, 0⟩ "themes"]

/-- With room for two lines, the end of the answer is all that is left. -/
theorem output_follows_reports_narrow :
    ∃ s, ofConfig "1" narrow false ⟨2024, 3, 5, 12, 0, 0⟩ = .ok s ∧
      (s.run clearedActions).output.lines =
        [⟨.output, 5, ""⟩, ⟨.output, 6, "Usage: load-theme <name> <filename.yml>"⟩] := by
  have hreports : ∃ s, ofConfig "1" narrow false ⟨2024, 3, 5, 12, 0, 0⟩ = .ok s ∧
      s.output.capacity = 2 ∧ sinceEmpty (s.reports clearedActions) =
        [[⟨.command, 7, "user@hyper-terminal:/$ themes"⟩, ⟨.output, 3, "Available themes:"⟩,
          ⟨.output, 4, "  asam"⟩, ⟨.output, 5, ""⟩,
          ⟨.output, 6, "Usage: load-theme <name> <filename.yml>"⟩]] := ⟨_, rfl, rfl, rfl⟩
  rcases hreports with ⟨s, hs, hcapacity, hreports⟩
  refine ⟨s, hs, ?_⟩
  rw [(output_follows_reports "1" narrow false _ s hs _).1, hcapacity, hreports]
  rfl

end Session

end SimTerm
