import SimTerm.Proofs.Tabs.Order

/-!
# Tabs by Themselves

What a tab is and what it has answered does not depend on the other tabs.

Lines are entered in the tabs in any order, and tabs are opened, closed and
made active in between. Of all this, a tab gets the lines that are entered in
it while it is open (`received`). A session of its own that is opened with the
same configuration at the same moment and gets these lines, one after another,
is in the same state, and it has given the same answers (`IsAlone`).

The proof follows a tab through the run. Before it is opened, its name stands
for nothing: all open tabs have smaller numbers. While it is open, each action
either enters a line in it, closes it, or leaves it alone (`get?_act`). After
it was closed, its name stands for nothing for good, as the number is given
away already. So the run is cut in three at the opening and the closing of the
tab, and each part is an induction of its own (`becomes_of_unopened`,
`isAlone_of_open`, `isAlone_of_closed`).

## Main definitions

* `input?`, `received`: The lines that a tab gets.
* `answer?`, `returned`: What it answers.
* `IsAlone`: A tab is what a session makes of its lines.
* `Becomes`: What becomes of a tab that is opened in the run.

## Theorems

* `get?_act`: What an action does to a tab.
* `isAlone_of_closed`: A tab that was closed gets and answers nothing.
* `isAlone_of_open`: A tab that is open is alone.
* `becomes_of_unopened`: So is one that is opened later.
* `tabs_isolated`: And so are all tabs.
* `tabs_isolated_turns`: Two tabs with lines in turn.
-/

namespace SimTerm

namespace Tabs

/-- The line that an action enters in a tab, if the tab is open. -/
def input? (t : Tabs) (id : String) : Action → Option Session.Input
  | .submit name input => if name = id then (t.get? id).map (fun _ => input) else none
  | _ => none

/-- The lines that a tab gets in a run. -/
def received (t : Tabs) (id : String) : List Action → List Session.Input
  | [] => []
  | a :: rest => (t.input? id a).toList ++ (t.act a).received id rest

/-- What a tab answers to an action, if it gets a line. -/
def answer? (t : Tabs) (id : String) (a : Action) : Option (Except ConfigFault (List Line)) :=
  (t.input? id a).bind (fun i => (t.get? id).map (fun s => (s.submit i.1 i.2).value.1))

/-- What a tab answers in a run. -/
def returned (t : Tabs) (id : String) :
    List Action → List (Except ConfigFault (List Line))
  | [] => []
  | a :: rest => (t.answer? id a).toList ++ (t.act a).returned id rest

/-- A tab is what a session makes of the lines that the tab gets. -/
structure IsAlone (t : Tabs) (id : String) (s₀ : Session) (actions : List Action) : Prop where
  /-- Its answers are those of the session. -/
  answers : t.returned id actions = s₀.answers (t.received id actions)
  /-- If it is still open, it is in the state of the session. -/
  state : ∀ s, (t.run actions).get? id = some s → s = s₀.after (t.received id actions)

theorem run_cons (t : Tabs) (a : Action) (rest : List Action) :
    t.run (a :: rest) = (t.act a).run rest := by
  rw [run, List.foldl_cons, run]

theorem after_cons (s : Session) (i : Session.Input) (rest : List Session.Input) :
    s.after (i :: rest) = (s.enter i).after rest := by
  rw [Session.after, List.foldl_cons, Session.after]

/-! ### One action -/

theorem le_act_issued {t : Tabs} (h : t.IsOrderly) (n : Nat) (hn : n ≤ t.issued) (a : Action) :
    n ≤ (t.act a).issued := by
  rw [t.act_issued h.nodup a]
  exact Nat.le_add_right_of_le hn

theorem get?_congr {t t' : Tabs} (h : t'.sessions = t.sessions) (id : String) :
    t'.get? id = t.get? id := by
  rw [get?, get?, h]

theorem id_of_get? (t : Tabs) (id : String) (s : Session) (h : t.get? id = some s) :
    s.id = id := by
  rw [get?] at h
  exact beq_iff_eq.mp (List.find?_some (p := fun s : Session => s.id == id) h)

/-- A change to a session is seen under its name only. -/
theorem get?_amend (t : Tabs) (name id : String) (f : Session → Session)
    (hf : ∀ s, (f s).id = s.id) :
    (t.amend name f).get? id = if name = id then (t.get? id).map f else t.get? id := by
  have hkept : ∀ s : Session, (if s.id == name then f s else s).id = s.id := by
    intro s
    split
    · exact hf s
    · rfl
  have hfind : (t.amend name f).get? id =
      (t.get? id).map (fun s => if s.id == name then f s else s) := by
    rw [get?, sessions_amend, List.find?_map, get?]
    congr 2
    funext s
    rw [Function.comp_apply, hkept]
  rw [hfind]
  cases hget : t.get? id with
  | none => rw [Option.map_none, Option.map_none, ite_self]
  | some s =>
      rw [Option.map_some, Option.map_some, t.id_of_get? id s hget]
      by_cases hname : name = id
      · rw [if_pos hname, if_pos (beq_iff_eq.mpr hname.symm)]
      · rw [if_neg hname, if_neg (fun h => hname (beq_iff_eq.mp h).symm)]

/-- Under the name of a tab that is closed there is nothing, and all others are
    still there. -/
theorem find?_filter_id (ss : List Session) (name id : String) :
    (ss.filter (fun s => s.id != name)).find? (fun s => s.id == id) =
      if name = id then none else ss.find? (fun s => s.id == id) := by
  rw [List.find?_filter]
  by_cases hname : name = id
  · rw [if_pos hname, List.find?_eq_none]
    intro s _ hs
    rw [decide_eq_true_eq, bne_iff_ne, beq_iff_eq] at hs
    exact hs.1 (hs.2.trans hname.symm)
  · rw [if_neg hname]
    congr 1
    funext s
    rw [Bool.eq_iff_iff, decide_eq_true_eq, bne_iff_ne, beq_iff_eq, and_iff_right_iff_imp]
    exact fun hs heq => hname (heq.symm.trans hs)

/-- What an action does to a tab whose number was given away: it closes the tab
    or it enters a line if it has one. -/
theorem get?_act {t : Tabs} (h : t.IsOrderly) (n : Nat) (hn : n ≤ t.issued) (a : Action) :
    ((t.act a).get? (nameOf n) = none ∧ t.input? (nameOf n) a = none) ∨
      (t.act a).get? (nameOf n) =
        (t.get? (nameOf n)).map (fun s => (t.input? (nameOf n) a).elim s s.enter) := by
  cases a with
  | openTab store now =>
      right
      simp only [input?, Option.elim_none, Option.map_id']
      rcases t.openTab_cases store now with ⟨f, _, hvalue⟩ | ⟨s, hs, hvalue⟩
      · rw [act, hvalue]
        exact get?_congr rfl _
      · -- The new tab has a larger number.
        have hnew : ¬ s.id = nameOf n := by
          rw [hs.id_eq]
          exact fun heq => absurd (nameOf_injective heq) (by omega)
        rw [act, hvalue, get?, sessions, List.find?_append, get?,
          List.find?_singleton, if_neg (by rw [beq_iff_eq]; exact hnew), Option.or_none]
  | close id =>
      rw [act]
      rcases t.close_cases id with ⟨_, hvalue⟩ | ⟨t', hsome, hvalue⟩
      · right
        simp only [hvalue, input?, Option.elim_none, Option.map_id']
      · have hget : t'.get? (nameOf n) = if id = nameOf n then none else t.get? (nameOf n) := by
          rw [get?, (t.without?_eq_some t' id h.nodup hsome).1, find?_filter_id, get?]
        rw [hvalue, hget]
        by_cases hid : id = nameOf n
        · left
          rw [if_pos hid]
          exact ⟨rfl, rfl⟩
        · right
          simp only [if_neg hid, input?, Option.elim_none, Option.map_id']
  | activate id =>
      right
      simp only [input?, Option.elim_none, Option.map_id']
      exact get?_congr (t.activates id).sessions _
  | submit id input =>
      right
      rw [act, get?_amend t id _ _ (fun s => enter_id s input), input?]
      by_cases hid : id = nameOf n
      · rw [if_pos hid, if_pos hid]
        cases t.get? (nameOf n) with
        | none => rw [Option.map_none, Option.map_none]
        | some s => rw [Option.map_some, Option.map_some, Option.map_some, Option.elim_some]
      · rw [if_neg hid, if_neg hid]
        simp only [Option.elim_none, Option.map_id']

/-! ### A run -/

/-- An action that enters no line in a tab is nothing to it. -/
theorem IsAlone.cons {t : Tabs} {id : String} {s₀ : Session} {a : Action} {rest : List Action}
    (hinput : t.input? id a = none) (h : (t.act a).IsAlone id s₀ rest) :
    t.IsAlone id s₀ (a :: rest) := by
  refine ⟨?_, fun s hs => ?_⟩
  · rw [returned, received, answer?, hinput]
    exact h.answers
  · rw [run_cons] at hs
    rw [received, hinput, Option.toList_none, List.nil_append]
    exact h.state s hs

/-- No line is entered in a tab that is not there. -/
theorem input?_of_closed (t : Tabs) (id : String) (hclosed : t.get? id = none) (a : Action) :
    t.input? id a = none := by
  cases a with
  | submit name input => rw [input?, hclosed, Option.map_none, ite_self]
  | _ => rfl

/-- After a tab was closed, its name stands for nothing. -/
theorem isAlone_of_closed {t : Tabs} (h : t.IsOrderly) (n : Nat) (hn : n ≤ t.issued)
    (hclosed : t.get? (nameOf n) = none) (actions : List Action) :
    t.received (nameOf n) actions = [] ∧ t.returned (nameOf n) actions = [] ∧
      (t.run actions).get? (nameOf n) = none := by
  induction actions generalizing t with
  | nil => exact ⟨rfl, rfl, hclosed⟩
  | cons a rest ih =>
      have hissued := le_act_issued h n hn a
      have hget : (t.act a).get? (nameOf n) = none := by
        rcases get?_act h n hn a with ⟨hnone, _⟩ | hget
        · exact hnone
        · rw [hget, hclosed, Option.map_none]
      have hinput := t.input?_of_closed (nameOf n) hclosed a
      rcases ih (h.act a) hissued hget with ⟨hreceived, hreturned, hrun⟩
      refine ⟨?_, ?_, hrun⟩
      · rw [received, hinput, hreceived]
        rfl
      · rw [returned, answer?, hinput, hreturned]
        rfl

/-- A tab that is open is what a session makes of the lines to come. -/
theorem isAlone_of_open {t : Tabs} (h : t.IsOrderly) (n : Nat) (hn : n ≤ t.issued) (s : Session)
    (hopen : t.get? (nameOf n) = some s) (actions : List Action) :
    t.IsAlone (nameOf n) s actions := by
  induction actions generalizing t s with
  | nil => exact ⟨rfl, fun s' hs' => Option.some.inj (hs'.symm.trans hopen)⟩
  | cons a rest ih =>
      have hissued := le_act_issued h n hn a
      rcases get?_act h n hn a with ⟨hnone, hinput⟩ | hget
      · -- The tab is closed and has got its last line.
        rcases isAlone_of_closed (h.act a) n hissued hnone rest with ⟨hreceived, hreturned, hrun⟩
        refine ⟨?_, fun s' hs' => ?_⟩
        · rw [returned, received, answer?, hinput, hreceived, hreturned]
          rfl
        · rw [run_cons, hrun] at hs'
          exact absurd hs'.symm (Option.some_ne_none s')
      · rw [hopen, Option.map_some] at hget
        cases hinput : t.input? (nameOf n) a with
        | none =>
            rw [hinput, Option.elim_none] at hget
            exact IsAlone.cons hinput (ih (h.act a) hissued s hget)
        | some i =>
            -- The tab and the session take the same line in the same state.
            rw [hinput, Option.elim_some] at hget
            have hrest := ih (h.act a) hissued (s.enter i) hget
            refine ⟨?_, fun s' hs' => ?_⟩
            · rw [returned, received, answer?, hinput, hopen]
              exact congrArg _ hrest.answers
            · rw [run_cons] at hs'
              rw [received, hinput, Option.toList_some, List.singleton_append, after_cons]
              exact hrest.state s' hs'

/-- What becomes of a tab that is opened under a name: it is alone, or it cannot
    be opened and nothing has the name in the end. -/
def Becomes (t : Tabs) (id : String) (b : ConfigStore × Moment) (actions : List Action) : Prop :=
  (∃ s₀, Greeted id b.1 b.2 s₀ ∧ t.IsAlone id s₀ actions) ∨
    ((∀ s₀, ¬ Greeted id b.1 b.2 s₀) ∧ (t.run actions).get? id = none)

theorem Becomes.cons {t : Tabs} {id : String} {b : ConfigStore × Moment} {a : Action}
    {rest : List Action} (hinput : t.input? id a = none) (h : (t.act a).Becomes id b rest) :
    t.Becomes id b (a :: rest) :=
  h.imp_left (fun ⟨s₀, hs₀, halone⟩ => ⟨s₀, hs₀, IsAlone.cons hinput halone⟩)

/-- Nothing has a name that was not given away. -/
theorem get?_of_unissued {t : Tabs} (h : t.IsOrderly) (n : Nat) (hn : t.issued < n) :
    t.get? (nameOf n) = none := by
  rcases h with ⟨numbers, hids, _, hbounds⟩
  rw [get?_eq_none_iff, hids, List.mem_map]
  rintro ⟨m, hm, hname⟩
  exact absurd (nameOf_injective hname) (Nat.ne_of_lt (Nat.lt_of_le_of_lt (hbounds m hm).2 hn))

/-- The tab that is opened next. -/
theorem becomes_of_opening {t : Tabs} (h : t.IsOrderly) (store : ConfigStore) (now : Moment)
    (rest : List Action) :
    (t.act (.openTab store now)).Becomes (nameOf (t.issued + 1)) (store, now) rest := by
  have hact := h.act (.openTab store now)
  have hissued : t.issued + 1 ≤ (t.act (.openTab store now)).issued :=
    Nat.le_of_eq (t.act_issued h.nodup (.openTab store now)).symm
  rcases t.openTab_cases store now with ⟨f, hf, hvalue⟩ | ⟨s, hs, hvalue⟩
  · right
    refine ⟨fun s₀ hs₀ => ?_, ?_⟩
    · rw [← openSession_ok_iff, hf] at hs₀
      exact absurd hs₀ (by simp only [reduceCtorEq, not_false_eq_true])
    · -- The number is used up, so no later tab gets the name.
      refine (isAlone_of_closed hact (t.issued + 1) hissued ?_ rest).2.2
      rw [act, hvalue]
      exact get?_of_unissued h (t.issued + 1) (Nat.lt_succ_self _)
  · left
    have hmem : s ∈ (t.act (.openTab store now)).sessions := by
      rw [act, hvalue]
      exact active_mem_sessions _
    have hopen := get?_of_mem _ hact.nodup s hmem
    rw [hs.id_eq] at hopen
    exact ⟨s, hs, isAlone_of_open hact (t.issued + 1) hissued s hopen rest⟩

/-- A tab that is opened later is what a session makes of its lines. -/
theorem becomes_of_unopened {t : Tabs} (h : t.IsOrderly) (actions : List Action) (k : Nat)
    (b : ConfigStore × Moment) (hb : (openings actions)[k]? = some b) :
    t.Becomes (nameOf (t.issued + k + 1)) b actions := by
  induction actions generalizing t k with
  | nil => exact absurd hb (by simp only [openings, List.getElem?_nil, reduceCtorEq,
      not_false_eq_true])
  | cons a rest ih =>
      -- The tab is not there yet, and each opening leaves one fewer before its own.
      have hinput : t.input? (nameOf (t.issued + k + 1)) a = none :=
        t.input?_of_closed _ (get?_of_unissued h _ (by omega)) a
      have hrest := ih (h.act a)
      rw [t.act_issued h.nodup a] at hrest
      refine Becomes.cons hinput ?_
      cases a with
      | openTab store now =>
          rw [openings] at hb
          cases k with
          | zero =>
              rw [List.getElem?_cons_zero, Option.some.injEq] at hb
              rw [← hb]
              exact becomes_of_opening h store now rest
          | succ k =>
              rw [List.getElem?_cons_succ] at hb
              rw [show t.issued + (k + 1) + 1 = t.issued + 1 + k + 1 by omega]
              exact hrest k hb
      | _ => exact hrest k hb

/-- One name is given away for each opening. -/
theorem run_issued {t : Tabs} (h : t.IsOrderly) (actions : List Action) :
    (t.run actions).issued = t.issued + (openings actions).length := by
  induction actions generalizing t with
  | nil => rfl
  | cons a rest ih =>
      have hrest := ih (h.act a)
      rw [t.act_issued h.nodup a] at hrest
      rw [run_cons, hrest, Nat.add_assoc]
      cases a with
      | openTab store now => simp only [openings, List.length_cons, List.length_nil]; omega
      | _ => simp only [openings, List.length_nil, Nat.zero_add]

/-- What becomes of the tabs of a whole run, the first one among them. -/
theorem becomes_of_start (store : ConfigStore) (now : Moment) (t : Tabs)
    (h : (start store now).value = .ok t) (actions : List Action) (k : Nat)
    (b : ConfigStore × Moment) (hb : ((store, now) :: openings actions)[k]? = some b) :
    t.Becomes (nameOf (k + 1)) b actions := by
  have hstart := start_isOrderly store now t h
  rcases start_ok store now t h with ⟨s, hs, rfl⟩
  cases k with
  | zero =>
      rw [List.getElem?_cons_zero, Option.some.injEq] at hb
      rw [← hb]
      have hopen := get?_of_mem _ hstart.nodup s (active_mem_sessions _)
      rw [hs.id_eq] at hopen
      exact .inl ⟨s, hs, isAlone_of_open hstart 1 (Nat.le_refl 1) s hopen actions⟩
  | succ k =>
      rw [List.getElem?_cons_succ] at hb
      rw [Nat.add_comm k 1]
      exact becomes_of_unopened hstart actions k b hb

theorem Greeted.unique {id : String} {store : ConfigStore} {now : Moment} {s s' : Session}
    (h : Greeted id store now s) (h' : Greeted id store now s') : s = s' := by
  rw [← openSession_ok_iff] at h h'
  exact Except.ok.inj (h.symm.trans h')

/-- Tabs do not depend on each other. A tab that is open in the end is a session
    that was opened for itself with the configuration and at the moment of the
    tab, was greeted, and got the lines of the tab in their order; and whatever
    tab is opened in the run, its answers are those of such a session, also if
    it was closed in between. -/
theorem tabs_isolated (store : ConfigStore) (now : Moment) (t : Tabs)
    (h : (start store now).value = .ok t) (actions : List Action) :
    (∀ s ∈ (t.run actions).sessions, ∃ k b s₀,
      ((store, now) :: openings actions)[k]? = some b ∧ s.id = nameOf (k + 1) ∧
        Greeted s.id b.1 b.2 s₀ ∧ s = s₀.after (t.received s.id actions) ∧
        t.returned s.id actions = s₀.answers (t.received s.id actions)) ∧
      ∀ k b s₀, ((store, now) :: openings actions)[k]? = some b →
        Greeted (nameOf (k + 1)) b.1 b.2 s₀ →
        t.returned (nameOf (k + 1)) actions = s₀.answers (t.received (nameOf (k + 1)) actions) := by
  have hstart := start_isOrderly store now t h
  refine ⟨fun s hs => ?_, fun k b s₀ hb hs₀ => ?_⟩
  · -- Its number was given away, so there is an opening for it.
    have hget := get?_of_mem _ (hstart.run actions).nodup s hs
    rcases hstart.run actions with ⟨numbers, hids, _, hbounds⟩
    have hid : s.id ∈ numbers.map nameOf := hids ▸ List.mem_map_of_mem hs
    rcases List.mem_map.mp hid with ⟨n, hn, hname⟩
    have hbound := hbounds n hn
    have hone : t.issued = 1 := by
      rcases start_ok store now t h with ⟨_, _, rfl⟩
      rfl
    rw [run_issued hstart, hone] at hbound
    have hk : n - 1 < ((store, now) :: openings actions).length := by
      rw [List.length_cons]
      omega
    have hb := List.getElem?_eq_getElem hk
    have hbecomes := becomes_of_start store now t h actions (n - 1) _ hb
    rw [Nat.sub_add_cancel hbound.1, hname] at hbecomes
    rcases hbecomes with ⟨s₀, hs₀, halone⟩ | ⟨_, hnone⟩
    · exact ⟨n - 1, _, s₀, hb, by rw [Nat.sub_add_cancel hbound.1, hname], hs₀,
        halone.state s hget, halone.answers⟩
    · rw [hget] at hnone
      exact absurd hnone (Option.some_ne_none s)
  · rcases becomes_of_start store now t h actions k b hb with ⟨s₁, hs₁, halone⟩ | ⟨hnone, _⟩
    · rw [hs₀.unique hs₁]
      exact halone.answers
    · exact absurd hs₀ (hnone s₀)

/-- A second tab, lines for both in turn, and the second one closed before the
    last line for it. -/
def turns : List Action :=
  [.submit "1" (⟨2024, 3, 5, 12, 0, 0⟩, "cd /home"), .openTab {} ⟨2024, 3, 5, 12, 0, 0⟩,
    .submit "2" (⟨2024, 3, 5, 12, 0, 0⟩, "pwd"), .submit "1" (⟨2024, 3, 5, 12, 0, 0⟩, "pwd"),
    .close "2", .submit "2" (⟨2024, 3, 5, 12, 0, 0⟩, "ls")]

/-- The first tab gets two of the lines and is somewhere else than the second. -/
theorem tabs_isolated_turns :
    ∃ t, (start {} ⟨2024, 3, 5, 12, 0, 0⟩).value = .ok t ∧
      (t.received "1" turns).map Prod.snd = ["cd /home", "pwd"] ∧
      (t.received "2" turns).map Prod.snd = ["pwd"] ∧
      ∀ s ∈ (t.run turns).sessions, ∃ k b s₀,
        (({}, ⟨2024, 3, 5, 12, 0, 0⟩) :: openings turns)[k]? = some b ∧ s.id = nameOf (k + 1) ∧
          Greeted s.id b.1 b.2 s₀ ∧ s = s₀.after (t.received s.id turns) ∧
          t.returned s.id turns = s₀.answers (t.received s.id turns) := by
  have hrun : ∃ t, (start {} ⟨2024, 3, 5, 12, 0, 0⟩).value = .ok t ∧
      (t.received "1" turns).map Prod.snd = ["cd /home", "pwd"] ∧
      (t.received "2" turns).map Prod.snd = ["pwd"] := ⟨_, rfl, rfl, rfl⟩
  rcases hrun with ⟨t, ht, hfirst, hsecond⟩
  exact ⟨t, ht, hfirst, hsecond, (tabs_isolated {} _ t ht turns).1⟩

end Tabs

end SimTerm
