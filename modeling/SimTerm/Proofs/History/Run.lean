import Mathlib.Data.List.Destutter
import Mathlib.Data.List.Induction
import SimTerm.History
import SimTerm.Proofs.Text.Words

/-!
# What a History Remembers

A history is the end of a list that is never cut.

That list has all commands that were ever entered, without the blanks around
them, without the blank ones among them, and with one command for each
immediate repetition (`collapsed`). The history does the same to each command
as it comes and forgets the oldest ones at its cap.

What makes this work is that the newest command is never forgotten as long as
there is room for one. A repetition is told from the last command that is kept,
and that is the last one of the whole list (`getLast?_keepLast`). So a command
is kept exactly when the list grows, and then by that command
(`push_collapsed`). With a cap of zero, which `ofCap` refuses, this would fail:
every command would look new.

Recalling moves the cursor and nothing else, so it does not matter when it is
done.

## Main definitions

* `collapsed`: The list that is never cut.
* `Action`, `act`, `run`: What can be done to a history, and runs of it.
* `entered`: The commands that were entered in a run.
* `Remembers`: What is kept is the end of that list.

## Theorems

* `destutter_concat`: How one more item collapses.
* `collapsed_concat`: How one more command does.
* `push_entries`: What entering a command does.
* `act_remembers`, `run_remembers`: What is kept after an action and a run.
* `remembers_collapsed`: All of it, with what entering says.
-/

namespace SimTerm

namespace History

/-- Some commands as they are remembered where there is room for all: trimmed,
    without blank ones and without immediate repetitions. -/
def collapsed (commands : List String) : List String :=
  ((commands.map trimmed).filter (· ≠ "")).destutter (· ≠ ·)

/-- What can be done to a history. -/
inductive Action where
  /-- A command is entered. -/
  | push (command : String)
  /-- An earlier command is recalled. -/
  | previous
  /-- A later command is recalled. -/
  | next
  /-- Recalling is stopped. -/
  | resetCursor
deriving Repr, DecidableEq

/-- The command that an action enters. -/
def Action.command? : Action → Option String
  | .push command => some command
  | .previous | .next | .resetCursor => none

/-- The history after an action. -/
def act (h : History) : Action → History
  | .push command => (h.push command).2
  | .previous => h.previous.2
  | .next => h.next.2
  | .resetCursor => h.resetCursor

/-- The history after some actions. -/
def run (h : History) (actions : List Action) : History := actions.foldl act h

/-- The commands that some actions enter, in order. -/
def entered (actions : List Action) : List String := actions.filterMap Action.command?

theorem ofCap_eq (n : Nat) (hn : 1 ≤ n) (hfits : n ≤ maxIndex) :
    ofCap n = .ok { capacity := n } := by
  have hpositive : ¬ (n : Int) ≤ 0 := by omega
  have hsmall : ¬ (maxIndex : Int) < n := by omega
  simp only [ofCap, checkCap, if_neg hpositive, if_neg hsmall, Int.toNat_natCast]

/-! ### Collapsing -/

/-- A repetition at the end is dropped, and everything else is kept. -/
theorem destutter_concat (xs : List String) (x : String) :
    (xs ++ [x]).destutter (· ≠ ·) =
      if (xs.destutter (· ≠ ·)).getLast? = some x then xs.destutter (· ≠ ·)
      else xs.destutter (· ≠ ·) ++ [x] := by
  cases xs with
  | nil => rfl
  | cons y xs =>
      rw [List.cons_append, List.destutter_cons', List.destutter_cons']
      induction xs generalizing y with
      | nil =>
          rw [List.nil_append, List.destutter'_singleton, List.destutter'_nil,
            List.getLast?_singleton]
          simp only [Option.some.injEq, ite_not, ne_eq, List.singleton_append]
      | cons z xs ih =>
          rw [List.cons_append]
          by_cases h : y = z
          · rw [List.destutter'_cons_neg _ (not_not.mpr h),
              List.destutter'_cons_neg _ (not_not.mpr h), ih]
          · -- The last item is found behind the first one, as there are others.
            rw [List.destutter'_cons_pos _ h, List.destutter'_cons_pos _ h, ih,
              List.getLast?_cons_of_ne_nil (List.destutter'_ne_nil _ _)]
            split <;> rfl

/-- One more command is dropped if it is blank or repeats the last one. -/
theorem collapsed_concat (commands : List String) (command : String) :
    collapsed (commands ++ [command]) =
      if trimmed command = "" ∨ (collapsed commands).getLast? = some (trimmed command) then
        collapsed commands
      else collapsed commands ++ [trimmed command] := by
  by_cases hblank : trimmed command = ""
  · rw [if_pos (.inl hblank), collapsed, List.map_append, List.filter_append, List.map_singleton,
      hblank, List.filter_cons_of_neg (by decide), List.filter_nil, List.append_nil, collapsed]
  · have hkept : [trimmed command].filter (· ≠ "") = [trimmed command] := by
      rw [List.filter_cons_of_pos (p := (· ≠ "")) (decide_eq_true hblank), List.filter_nil]
    rw [collapsed, List.map_append, List.filter_append, List.map_singleton, hkept,
      destutter_concat, ← collapsed]
    simp only [hblank, false_or]

/-- All that is left is trimmed, and nothing of it is blank. -/
theorem mem_collapsed (commands : List String) (entry : String) (h : entry ∈ collapsed commands) :
    entry ≠ "" ∧ trimmed entry = entry := by
  have hmem := (List.destutter_sublist _ _).subset h
  rw [List.mem_filter, decide_eq_true_eq] at hmem
  rcases List.mem_map.mp hmem.1 with ⟨command, _, hcommand⟩
  refine ⟨hmem.2, ?_⟩
  rw [← hcommand, trimmed_trimmed]

/-! ### Actions -/

/-- A command is kept if it is neither blank nor a repetition of the last one. -/
theorem push_kept (h : History) (command : String) :
    (h.push command).1 =
      !decide (trimmed command = "" ∨ h.entries.getLast? = some (trimmed command)) := by
  simp only [push, Bool.or_eq_true, String.isEmpty_iff, beq_iff_eq]
  split
  case isTrue hdropped => rw [decide_eq_true hdropped, Bool.not_true]
  case isFalse hkept => rw [decide_eq_false hkept, Bool.not_false]

/-- A command that is kept comes last, and the oldest ones make room for it. -/
theorem push_entries (h : History) (command : String) :
    (h.push command).2.entries =
      if (h.push command).1 then keepLast h.capacity (h.entries ++ [trimmed command])
      else h.entries := by
  unfold push
  dsimp only
  split <;> rfl

theorem act_capacity (h : History) (a : Action) : (h.act a).capacity = h.capacity := by
  cases a with
  | push command =>
      simp only [act, push]
      split <;> rfl
  | previous =>
      simp only [act, previous]
      split <;> rfl
  | next =>
      simp only [act, next]
      split <;> rfl
  | resetCursor => rfl

theorem run_capacity (h : History) (actions : List Action) :
    (h.run actions).capacity = h.capacity := by
  induction actions generalizing h with
  | nil => rfl
  | cons a rest ih => rw [run, List.foldl_cons, ← run, ih, act_capacity]

theorem previous_entries (h : History) : h.previous.2.entries = h.entries := by
  unfold previous
  split <;> rfl

theorem next_entries (h : History) : h.next.2.entries = h.entries := by
  unfold next
  split <;> rfl

/-! ### Runs -/

/-- What is kept is the end of some commands, collapsed. -/
def Remembers (h : History) (commands : List String) : Prop :=
  h.entries = keepLast h.capacity (collapsed commands)

/-- A command is kept exactly if the collapsed list grows by it. -/
theorem push_collapsed (h : History) (commands : List String) (command : String)
    (hroom : 1 ≤ h.capacity) (hh : h.Remembers commands) :
    collapsed (commands ++ [command]) =
      if (h.push command).1 then collapsed commands ++ [trimmed command]
      else collapsed commands := by
  -- There is room for the last command of the list, so both look at the same one.
  have hlast : h.entries.getLast? = (collapsed commands).getLast? := by
    rw [hh, getLast?_keepLast _ hroom]
  rw [push_kept, hlast, collapsed_concat]
  simp only [Bool.not_eq_true', decide_eq_false_iff_not, ite_not]

/-- An action goes along with the commands that it enters. -/
theorem act_remembers (h : History) (a : Action) (commands : List String) (hroom : 1 ≤ h.capacity)
    (hh : h.Remembers commands) : (h.act a).Remembers (commands ++ a.command?.toList) := by
  rw [Remembers, act_capacity]
  cases a with
  | push command =>
      have hgrows := push_collapsed h commands command hroom hh
      rw [act, Action.command?, Option.toList_some, push_entries, hgrows, hh]
      -- Cutting before the command came is cutting after it.
      split
      case isTrue => rw [keepLast_keepLast_append]
      case isFalse => rfl
  | previous => rw [act, previous_entries, Action.command?, Option.toList_none, List.append_nil, hh]
  | next => rw [act, next_entries, Action.command?, Option.toList_none, List.append_nil, hh]
  | resetCursor => rw [act, resetCursor, Action.command?, Option.toList_none, List.append_nil, hh]

theorem entered_concat (actions : List Action) (a : Action) :
    entered (actions ++ [a]) = entered actions ++ a.command?.toList := by
  rw [entered, List.filterMap_append, ← entered]
  cases a <;> rfl

theorem run_remembers (n : Nat) (hn : 1 ≤ n) (actions : List Action) :
    (({ capacity := n } : History).run actions).Remembers (entered actions) := by
  induction actions using List.reverseRecOn with
  | nil => exact (keepLast_nil n).symm
  | append_singleton rest a ih =>
      have hroom : 1 ≤ (({ capacity := n } : History).run rest).capacity := by
        rw [run_capacity]
        exact hn
      rw [run, List.foldl_concat, ← run, entered_concat]
      exact act_remembers _ a _ hroom ih

/-- A history with a cap is the end of a list that is never cut. After any run
    it holds the last commands of those that were entered, trimmed, without
    blank ones and without immediate repetitions. Entering a command says
    whether that list grows by it. So there are never more commands than the
    cap allows, each of them is trimmed and not blank, and no two neighbours
    are the same. -/
theorem remembers_collapsed (n : Nat) (hn : 1 ≤ n) :
    (n ≤ maxIndex → ofCap n = .ok { capacity := n }) ∧
    ∀ actions : List Action,
      let h := ({ capacity := n } : History).run actions
      let whole := collapsed (entered actions)
      h.entries = keepLast n whole ∧
      (∀ command,
        ((h.push command).1 = true ↔
          collapsed (entered actions ++ [command]) = whole ++ [trimmed command]) ∧
        ((h.push command).1 = false ↔ collapsed (entered actions ++ [command]) = whole)) ∧
      h.entries.length ≤ n ∧
      (∀ entry ∈ h.entries, entry ≠ "" ∧ trimmed entry = entry) ∧
      h.entries.IsChain (· ≠ ·) := by
  refine ⟨ofCap_eq n hn, fun actions => ?_⟩
  intro h whole
  have hcapacity : h.capacity = n := run_capacity { capacity := n } actions
  have hremembers : h.Remembers (entered actions) := run_remembers n hn actions
  have hentries : h.entries = keepLast n whole := hcapacity ▸ hremembers
  refine ⟨hentries, fun command => ?_, ?_, fun entry hentry => ?_, ?_⟩
  · have hgrows := push_collapsed h (entered actions) command (hcapacity ▸ hn) hremembers
    -- A list does not grow and stay the same at once.
    have hne : whole ++ [trimmed command] ≠ whole := fun hsame =>
      List.cons_ne_nil _ _ (List.append_right_eq_self.mp hsame)
    cases hkept : (h.push command).1 with
    | true =>
        rw [hkept, if_pos rfl] at hgrows
        rw [hgrows]
        exact ⟨iff_of_true rfl rfl, iff_of_false (by decide) hne⟩
    | false =>
        rw [hkept, if_neg Bool.false_ne_true] at hgrows
        rw [hgrows]
        exact ⟨iff_of_false (by decide) (Ne.symm hne), iff_of_true rfl rfl⟩
  · rw [hentries]
    exact length_keepLast_le n whole
  · rw [hentries] at hentry
    exact mem_collapsed _ entry (List.mem_of_mem_drop hentry)
  · rw [hentries]
    exact (List.isChain_destutter _ _).drop _

/-- With room for two, between recalls: a repetition behind blanks, a blank
    command, and one that was there before but not last. -/
theorem remembers_collapsed_narrow :
    let actions : List Action := [.push "ls ", .push "pwd", .previous, .push " pwd", .push " ",
      .next, .push "date", .push "pwd"]
    1 ≤ 2 ∧ 2 ≤ maxIndex ∧ ofCap 2 = .ok { capacity := 2 } ∧
      (({ capacity := 2 } : History).run actions).entries =
        keepLast 2 (collapsed (entered actions)) ∧
      collapsed (entered actions) = ["ls", "pwd", "date", "pwd"] ∧
      "pwd" ∈ (({ capacity := 2 } : History).run actions).entries ∧ trimmed "pwd" = "pwd" := by
  intro actions
  have hcap : 1 ≤ 2 := by omega
  have hfits : 2 ≤ maxIndex := by decide
  have hmem : "pwd" ∈ (({ capacity := 2 } : History).run actions).entries := by decide
  rcases remembers_collapsed 2 hcap with ⟨hstart, hrun⟩
  rcases hrun actions with ⟨hentries, _, _, hlike, _⟩
  exact ⟨hcap, hfits, hstart hfits, hentries, by decide, hmem, (hlike _ hmem).2⟩

end History

end SimTerm
