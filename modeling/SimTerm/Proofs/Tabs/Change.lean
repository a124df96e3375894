import Mathlib.Data.List.Basic
import Mathlib.Data.List.TakeDrop
import Mathlib.Data.List.TakeWhile
import SimTerm.Proofs.Session.Opening
import SimTerm.Tabs

/-!
# Changes of Tabs

What can be done to the tabs, and what each of it does to the list of sessions.

The list is kept in two halves with the active session between them. The
lemmas here say of each change what the list as a whole is afterwards, who is
active and how many names were given away, and nothing behind them looks at the
halves again. A tab that is opened comes to the end of the list, a tab that is
closed drops out of it, another active tab is another place in the same list,
and a line that is entered exchanges one session.

That names are distinct is needed in one place only. Closing the active tab
forgets a place and closing another one forgets a name, and the two are the
same when no name stands twice (`without?_eq_some`).

## Main definitions

* `Action`: What can be done to the tabs from outside.
* `amend`: The tabs with a change to one session.
* `act`, `run`: One action and a sequence of actions.
* `openings`: What tabs are opened with.
* `Greeted`: A new session with its first lines.

## Theorems

* `openSession_ok_iff`: What is opened is such a session.
* `openTab_cases`: What opening a tab does.
* `without?_eq_none_iff`, `without?_eq_some`: What closing a tab does.
* `focus?_cases`: What making a tab the active one does.
* `sessions_amend`: What a change to one session does.
* `start_ok`: What the first tab is.
-/

namespace SimTerm

namespace Tabs

/-- What can be done to the tabs from outside. -/
inductive Action where
  /-- A tab is opened with a configuration. -/
  | openTab (store : ConfigStore) (now : Moment)
  /-- A tab is closed. -/
  | close (id : String)
  /-- A tab is made the active one. -/
  | activate (id : String)
  /-- A line is entered in a tab. -/
  | submit (id : String) (input : Session.Input)

/-- The tabs with a change to the session with a name. -/
def amend (t : Tabs) (id : String) (f : Session → Session) : Tabs :=
  let change (s : Session) : Session := if s.id == id then f s else s
  { t with
    before := t.before.map change
    active := change t.active
    after := t.after.map change }

/-- The tabs after an action. -/
def act (t : Tabs) : Action → Tabs
  | .openTab store now => (t.openTab store now).value.2
  | .close id => (t.close id).value.2
  | .activate id => (t.activate id).2
  | .submit id input => t.amend id (fun s => s.enter input)

/-- The tabs after some actions. -/
def run (t : Tabs) (actions : List Action) : Tabs := actions.foldl act t

/-- The configurations and moments that tabs are opened with in a run. -/
def openings : List Action → List (ConfigStore × Moment)
  | [] => []
  | .openTab store now :: rest => (store, now) :: openings rest
  | _ :: rest => openings rest

/-! ### Single sessions -/

theorem enter_id (s : Session) (i : Session.Input) : (s.enter i).id = s.id := by
  rw [Session.enter]
  exact Session.submit_keeps Session.id (fun _ _ _ _ _ => rfl)
    (fun now raw s answer h => (Session.dispatch_frame now raw s answer h).id) i.1 i.2 s

theorem welcome_id (s s' : Session) (lines : List Line) (h : s.welcome = .ok (lines, s')) :
    s'.id = s.id := by
  unfold Session.welcome at h
  cases ht : s.config.terminal.demand with
  | error f => simp only [ht, reduceCtorEq] at h
  | ok t =>
      simp only [ht, Except.ok.injEq, Prod.mk.injEq] at h
      rw [← h.2]
      rfl

/-- A session of its own: new, and with its first lines written. -/
def Greeted (id : String) (store : ConfigStore) (now : Moment) (s : Session) : Prop :=
  ∃ s₀ lines, Session.ofStore id store now = .ok s₀ ∧ s₀.welcome = .ok (lines, s)

/-- What is opened is such a session. -/
theorem openSession_ok_iff (id : String) (store : ConfigStore) (now : Moment) (s : Session) :
    (openSession id store now).value = .ok s ↔ Greeted id store now s := by
  unfold openSession Session.start Greeted
  cases hstart : Session.ofStore id store now with
  | error f => simp only [Except.map, reduceCtorEq, false_and, exists_false]
  | ok s₀ =>
      simp only [Except.map, Except.ok.injEq, exists_and_left, exists_eq_left']
      rcases s₀.welcome with f | ⟨lines, s₁⟩
      · simp only [reduceCtorEq, exists_false]
      · simp only [Except.ok.injEq, Prod.mk.injEq, exists_eq_left']

theorem Greeted.id_eq {id : String} {store : ConfigStore} {now : Moment} {s : Session}
    (h : Greeted id store now s) : s.id = id := by
  rcases h with ⟨s₀, lines, hnew, hwelcome⟩
  rw [Session.ofStore] at hnew
  rcases Session.ofConfig_eq _ _ _ _ _ hnew with ⟨files, shell, kept, remembered, hs₀⟩
  rw [welcome_id s₀ s lines hwelcome, hs₀]

/-! ### Single changes -/

theorem mem_ids (t : Tabs) (id : String) : id ∈ t.ids ↔ ∃ s ∈ t.sessions, s.id = id := by
  rw [ids, List.mem_map]

theorem active_mem_sessions (t : Tabs) : t.active ∈ t.sessions :=
  List.mem_append_right _ List.mem_cons_self

theorem get?_eq_none_iff (t : Tabs) (id : String) : t.get? id = none ↔ id ∉ t.ids := by
  rw [get?, List.find?_eq_none, mem_ids, not_exists]
  simp only [beq_iff_eq, not_and]

/-- Where no name stands twice, a tab is found under its name. -/
theorem get?_of_mem (t : Tabs) (ht : t.ids.Nodup) (s : Session) (hs : s ∈ t.sessions) :
    t.get? s.id = some s := by
  rcases List.append_of_mem hs with ⟨before, after, hsplit⟩
  rw [ids, hsplit, List.map_append, List.map_cons, List.nodup_append] at ht
  rw [get?, List.find?_eq_some_iff_append]
  refine ⟨beq_self_eq_true _, before, after, hsplit, fun x hx => ?_⟩
  rw [Bool.not_eq_true', beq_eq_false_iff_ne]
  exact ht.2.2 _ (List.mem_map_of_mem hx) _ List.mem_cons_self

theorem length_sessions_eq_one_iff (t : Tabs) :
    t.sessions.length = 1 ↔ t.before ++ t.after = [] := by
  rw [sessions, ← List.length_eq_zero_iff, List.length_append, List.length_append,
    List.length_cons]
  omega

/-- A name that another tab has leaves more than one tab. -/
theorem without?_eq_none_iff (t : Tabs) (id : String) :
    t.without? id = none ↔ id ∉ t.ids ∨ t.sessions.length = 1 := by
  unfold without?
  by_cases hactive : t.active.id = id
  · have hopen : id ∈ t.ids := (t.mem_ids id).mpr ⟨t.active, t.active_mem_sessions, hactive⟩
    rw [if_pos (beq_iff_eq.mpr hactive), Option.map_eq_none_iff, List.getLast?_eq_none_iff,
      length_sessions_eq_one_iff]
    exact ⟨Or.inr, fun h => h.resolve_left (not_not_intro hopen)⟩
  · -- An only tab is the active one, which has another name.
    have hgone : t.sessions.length = 1 → id ∉ t.ids := by
      intro hlength hopen
      rcases (t.mem_ids id).mp hopen with ⟨s, hs, hid⟩
      rcases List.append_eq_nil_iff.mp (t.length_sessions_eq_one_iff.mp hlength) with ⟨hb, ha⟩
      rw [sessions, hb, ha, List.nil_append, List.mem_singleton] at hs
      exact hactive (hs ▸ hid)
    rw [if_neg (by rw [beq_iff_eq]; exact hactive), ← get?_eq_none_iff]
    rw [← get?_eq_none_iff] at hgone
    cases hget : t.get? id with
    | none => exact iff_of_true rfl (Or.inl rfl)
    | some s =>
        rw [hget] at hgone
        have hother : ¬ t.sessions.length = 1 := fun h => Option.some_ne_none s (hgone h)
        exact iff_of_false (Option.some_ne_none _) (not_or_intro (Option.some_ne_none s) hother)

/-- Without the sessions of a name, a list in which no name stands twice is
    without the one session. -/
theorem filter_ne (before after : List Session) (s : Session)
    (h : ((before ++ s :: after).map Session.id).Nodup) :
    (before ++ s :: after).filter (fun x => x.id != s.id) = before ++ after := by
  rw [List.map_append, List.map_cons, List.nodup_append, List.nodup_cons] at h
  rcases h with ⟨_, ⟨hafter, _⟩, hbefore⟩
  have hkeep : ∀ xs : List Session, (∀ x ∈ xs, x.id ≠ s.id) →
      xs.filter (fun x => x.id != s.id) = xs :=
    fun xs hxs => List.filter_eq_self.mpr (fun x hx => bne_iff_ne.mpr (hxs x hx))
  have hdropped : (s :: after).filter (fun x => x.id != s.id) =
      after.filter (fun x => x.id != s.id) :=
    List.filter_cons_of_neg (by rw [bne_self_eq_false]; exact Bool.false_ne_true)
  rw [List.filter_append, hdropped]
  rw [hkeep before (fun x hx => hbefore _ (List.mem_map_of_mem hx) _ List.mem_cons_self),
    hkeep after (fun x hx hid => hafter (hid ▸ List.mem_map_of_mem hx))]

/-- The list without a tab, and who is active then. -/
theorem without?_eq_some (t t' : Tabs) (id : String) (ht : t.ids.Nodup)
    (h : t.without? id = some t') :
    t'.sessions = t.sessions.filter (fun s => s.id != id) ∧ t'.issued = t.issued ∧
      (t.active.id = id → t'.sessions.getLast? = some t'.active) ∧
      (t.active.id ≠ id → t'.active = t.active) := by
  unfold without? at h
  by_cases hactive : t.active.id = id
  · rw [if_pos (beq_iff_eq.mpr hactive), Option.map_eq_some_iff] at h
    rcases h with ⟨s, hlast, rfl⟩
    -- Only the place of the active tab changes: it is now the last of the others.
    have hrest : (t.before ++ t.after).dropLast ++ [s] = t.before ++ t.after :=
      List.dropLast_append_getLast? s hlast
    refine ⟨?_, rfl, fun _ => ?_, fun hne => absurd hactive hne⟩
    · rw [← hactive, sessions, sessions, filter_ne _ _ _ ht, hrest]
    · rw [sessions, List.getLast?_concat]
  · rw [if_neg (by rw [beq_iff_eq]; exact hactive)] at h
    split at h
    · rw [← Option.some.inj h]
      refine ⟨?_, rfl, fun heq => absurd heq hactive, fun _ => rfl⟩
      have hkept : (t.active.id != id) = true := bne_iff_ne.mpr hactive
      rw [sessions, sessions, List.filter_append, List.filter_cons, if_pos hkept]
    · exact absurd h (by simp only [reduceCtorEq, not_false_eq_true])

/-- Another place in the list is found exactly for an open tab. -/
theorem focus?_cases (t : Tabs) (id : String) :
    (t.focus? id = none ∧ id ∉ t.ids) ∨
      ∃ t', t.focus? id = some t' ∧ id ∈ t.ids ∧ t'.sessions = t.sessions ∧
        t'.issued = t.issued ∧ t'.active.id = id := by
  unfold focus?
  rw [List.span_eq_takeWhile_dropWhile]
  have hsplit := List.takeWhile_append_dropWhile (p := fun s => s.id != id) (l := t.sessions)
  cases hrest : t.sessions.dropWhile (fun s => s.id != id) with
  | nil =>
      refine .inl ⟨rfl, fun hopen => ?_⟩
      rcases (t.mem_ids id).mp hopen with ⟨s, hs, hid⟩
      exact bne_iff_ne.mp (List.dropWhile_eq_nil_iff.mp hrest s hs) hid
  | cons s after =>
      -- The walk stops at the first session that has the name.
      have hs : s.id = id := by
        have hne : t.sessions.dropWhile (fun s => s.id != id) ≠ [] := by
          rw [hrest]
          exact List.cons_ne_nil s after
        have hhead := List.head_dropWhile_not (fun s : Session => s.id != id) hne
        simpa only [hrest, List.head_cons, bne_eq_false_iff_eq] using hhead
      rw [hrest] at hsplit
      refine .inr ⟨_, rfl, (t.mem_ids id).mpr ⟨s, ?_, hs⟩, hsplit, rfl, hs⟩
      rw [← hsplit]
      exact List.mem_append_right _ List.mem_cons_self

theorem sessions_amend (t : Tabs) (id : String) (f : Session → Session) :
    (t.amend id f).sessions = t.sessions.map (fun s => if s.id == id then f s else s) := by
  simp only [amend, sessions, List.map_append, List.map_cons]

/-- A change that keeps the name of a session keeps the names of all. -/
theorem ids_amend (t : Tabs) (id : String) (f : Session → Session) (hf : ∀ s, (f s).id = s.id) :
    (t.amend id f).ids = t.ids := by
  rw [ids, sessions_amend, ids, List.map_map]
  refine List.map_congr_left (fun s _ => ?_)
  rw [Function.comp_apply]
  split
  · exact hf s
  · rfl

/-- What opening a tab does, by whether there is a session. -/
theorem openTab_cases (t : Tabs) (store : ConfigStore) (now : Moment) :
    (∃ f, (openSession (nameOf (t.issued + 1)) store now).value = .error f ∧
        (t.openTab store now).value = (.error f, { t with issued := t.issued + 1 })) ∨
      ∃ s, Greeted (nameOf (t.issued + 1)) store now s ∧
        (t.openTab store now).value =
          (.ok (nameOf (t.issued + 1)), ⟨t.sessions, s, [], t.issued + 1⟩) := by
  cases hopen : (openSession (nameOf (t.issued + 1)) store now).value with
  | error f =>
      refine .inl ⟨f, rfl, ?_⟩
      simp only [openTab, Traced.map, hopen]
  | ok s =>
      have hs := (openSession_ok_iff _ store now s).mp hopen
      refine .inr ⟨s, hs, ?_⟩
      simp only [openTab, Traced.map, hopen, hs.id_eq]

theorem close_cases (t : Tabs) (id : String) :
    (t.without? id = none ∧ (t.close id).value = (false, t)) ∨
      ∃ t', t.without? id = some t' ∧ (t.close id).value = (true, t') := by
  unfold close
  cases h : t.without? id with
  | none => exact .inl ⟨rfl, rfl⟩
  | some t' => exact .inr ⟨t', rfl, rfl⟩

theorem start_ok (store : ConfigStore) (now : Moment) (t : Tabs)
    (h : (start store now).value = .ok t) :
    ∃ s, Greeted (nameOf 1) store now s ∧ t = ⟨[], s, [], 1⟩ := by
  have hvalue : (start store now).value =
      (openSession (nameOf 1) store now).value.map (fun s => ⟨[], s, [], 1⟩) := rfl
  cases hopen : (openSession (nameOf 1) store now).value with
  | error f =>
      rw [hvalue, hopen] at h
      exact absurd h (by simp only [Except.map, reduceCtorEq, not_false_eq_true])
  | ok s =>
      rw [hvalue, hopen] at h
      exact ⟨s, (openSession_ok_iff _ store now s).mp hopen, (Except.ok.inj h).symm⟩

end Tabs

end SimTerm
