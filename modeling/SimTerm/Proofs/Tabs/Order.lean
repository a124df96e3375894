import Mathlib.Data.List.Nodup
import SimTerm.Proofs.Tabs.Change

/-!
# Tabs in Order

What the tabs look like after any run, and what each change to them comes to.

Every tab that is opened takes the next number for its name, also when there
is no session in the end, and no number is given back. So the names of the open
tabs are those of increasing numbers, none above the count of all that were
given away (`IsOrderly`). This is an invariant because the new name is larger
than all others and the other changes keep the order of the list, be it that
one tab drops out of it.

Names that are given out over a run increase for the same reason, and so none
is given out twice, whether or not its tab is still open
(`opened_increases`). As distinct names follow from the order, all that is said
of single changes holds after every run (`stays_orderly`).

## Main definitions

* `opened`: The names that are given out in a run.
* `IsOrderly`: The names are those of increasing numbers.
* `Closes`, `Opens`, `Activates`: What the changes come to.

## Theorems

* `IsOrderly.act`, `IsOrderly.run`: Tabs stay in order.
* `opened_increases`: Names are given out in order, and none twice.
* `stays_orderly`: What holds of the tabs after any run.
* `stays_orderly_mixed`: The same where a tab cannot be opened.
-/

namespace SimTerm

namespace Tabs

/-- The name that an action gives out, if it does. -/
def named (t : Tabs) : Action → List String
  | .openTab store now => (t.openTab store now).value.1.toOption.toList
  | _ => []

/-- The names that are given out in a run, in order. -/
def opened (t : Tabs) : List Action → List String
  | [] => []
  | a :: rest => t.named a ++ (t.act a).opened rest

/-- The names of the tabs are those of increasing numbers, and of no number that
    was not given away. -/
def IsOrderly (t : Tabs) : Prop :=
  ∃ numbers : List Nat, t.ids = numbers.map nameOf ∧ numbers.Pairwise (· < ·) ∧
    ∀ n ∈ numbers, 0 < n ∧ n ≤ t.issued

/-- What closing a tab comes to. -/
structure Closes (t : Tabs) (id : String) : Prop where
  /-- It is refused for a tab that is not open and for the only one. -/
  refused_iff : (t.close id).value.1 = false ↔ id ∉ t.ids ∨ t.sessions.length = 1
  /-- If it is refused, nothing changes. -/
  refused : (t.close id).value.1 = false → (t.close id).value.2 = t
  /-- The other tabs remain. -/
  remaining : (t.close id).value.1 = true →
    (t.close id).value.2.sessions = t.sessions.filter (fun s => s.id != id)
  /-- For the active tab the last one of the others becomes active. -/
  active : (t.close id).value.1 = true → t.active.id = id →
    (t.close id).value.2.sessions.getLast? = some (t.close id).value.2.active
  /-- Without any other tab the active one stays active. -/
  other : (t.close id).value.1 = true → t.active.id ≠ id →
    (t.close id).value.2.active = t.active

/-- What opening a tab comes to. -/
structure Opens (t : Tabs) (store : ConfigStore) (now : Moment) : Prop where
  /-- If there is no session, there is no other tab and no other active one. -/
  failed : ∀ f, (t.openTab store now).value.1 = .error f →
    (t.openTab store now).value.2.sessions = t.sessions ∧
      (t.openTab store now).value.2.active = t.active
  /-- The new tab is the last one and the active one. -/
  opened : ∀ id, (t.openTab store now).value.1 = .ok id →
    ∃ s, s.id = id ∧ (t.openTab store now).value.2.sessions = t.sessions ++ [s] ∧
      (t.openTab store now).value.2.active = s

/-- What making a tab the active one comes to. -/
structure Activates (t : Tabs) (id : String) : Prop where
  /-- It is refused for a tab that is not open. -/
  refused_iff : (t.activate id).1 = false ↔ id ∉ t.ids
  /-- If it is refused, nothing changes. -/
  refused : (t.activate id).1 = false → (t.activate id).2 = t
  /-- No tab comes or goes. -/
  sessions : (t.activate id).2.sessions = t.sessions
  /-- The tab is the active one. -/
  active : (t.activate id).1 = true → (t.activate id).2.active.id = id

/-- A number is read back from its name. -/
theorem nameOf_injective : Function.Injective nameOf := by
  intro m n h
  exact Text.eq_of_toDigits_eq m n (String.ofList_injective h)

/-! ### Order -/

theorem IsOrderly.nodup {t : Tabs} (h : t.IsOrderly) : t.ids.Nodup := by
  rcases h with ⟨numbers, hids, hnumbers, _⟩
  rw [hids]
  exact List.Nodup.map nameOf_injective (hnumbers.imp Nat.ne_of_lt)

/-- Sessions that drop out of the list leave it in order. -/
theorem IsOrderly.of_sublist {t t' : Tabs} (h : t.IsOrderly) (hids : t'.ids.Sublist t.ids)
    (hissued : t'.issued = t.issued) : t'.IsOrderly := by
  rcases h with ⟨numbers, hnames, hnumbers, hbounds⟩
  rw [hnames] at hids
  rcases List.sublist_map_iff.mp hids with ⟨kept, hkept, hnames'⟩
  exact ⟨kept, hnames', hnumbers.sublist hkept, fun n hn => hissued ▸ hbounds n (hkept.subset hn)⟩

/-- Each action leaves the tabs in order. -/
theorem IsOrderly.act {t : Tabs} (h : t.IsOrderly) (a : Action) : (t.act a).IsOrderly := by
  cases a with
  | openTab store now =>
      rcases h with ⟨numbers, hids, hnumbers, hbounds⟩
      rcases t.openTab_cases store now with ⟨f, _, hvalue⟩ | ⟨s, hs, hvalue⟩
      · -- The number is used up, and nothing else has happened.
        rw [Tabs.act, hvalue]
        exact ⟨numbers, hids, hnumbers,
          fun n hn => ⟨(hbounds n hn).1, Nat.le_succ_of_le (hbounds n hn).2⟩⟩
      · have hnew : ∀ n ∈ numbers, n < t.issued + 1 :=
          fun n hn => Nat.lt_succ_of_le (hbounds n hn).2
        rw [Tabs.act, hvalue]
        refine ⟨numbers ++ [t.issued + 1], ?_, ?_, fun n hn => ?_⟩
        · rw [ids, sessions, List.map_append, List.map_append, List.map_singleton,
            List.map_singleton, hs.id_eq, ← hids, ids]
        · rw [List.pairwise_append]
          exact ⟨hnumbers, List.pairwise_singleton _ _,
            fun n hn m hm => List.mem_singleton.mp hm ▸ hnew n hn⟩
        · rcases List.mem_append.mp hn with hold | hlast
          · exact ⟨(hbounds n hold).1, Nat.le_of_lt (hnew n hold)⟩
          · rw [List.mem_singleton.mp hlast]
            exact ⟨Nat.succ_pos _, Nat.le_refl _⟩
  | close id =>
      rcases t.close_cases id with ⟨_, hvalue⟩ | ⟨t', hsome, hvalue⟩
      · rw [Tabs.act, hvalue]
        exact h
      · rcases t.without?_eq_some t' id h.nodup hsome with ⟨hsessions, hissued, _⟩
        rw [Tabs.act, hvalue]
        refine h.of_sublist ?_ hissued
        rw [ids, ids, hsessions]
        exact List.filter_sublist.map _
  | activate id =>
      rw [Tabs.act, activate]
      rcases t.focus?_cases id with ⟨hnone, _⟩ | ⟨t', hsome, _, hsessions, hissued, _⟩
      · rw [hnone]
        exact h
      · rw [hsome]
        refine h.of_sublist ?_ hissued
        rw [ids, ids, hsessions]
  | submit id input =>
      refine h.of_sublist ?_ rfl
      rw [Tabs.act, ids_amend t id _ (fun s => enter_id s input)]

/-- Tabs stay in order. -/
theorem IsOrderly.run {t : Tabs} (h : t.IsOrderly) (actions : List Action) :
    (t.run actions).IsOrderly := by
  induction actions generalizing t with
  | nil => exact h
  | cons a rest ih => exact ih (h.act a)

theorem start_isOrderly (store : ConfigStore) (now : Moment) (t : Tabs)
    (h : (start store now).value = .ok t) : t.IsOrderly := by
  rcases start_ok store now t h with ⟨s, hs, rfl⟩
  refine ⟨[1], ?_, List.pairwise_singleton _ _, fun n hn => ?_⟩
  · rw [ids, sessions, List.nil_append, List.map_singleton, List.map_singleton, hs.id_eq]
  · rw [List.mem_singleton.mp hn]
    exact ⟨Nat.one_pos, Nat.le_refl 1⟩

/-! ### Names -/

/-- Opening a tab gives one more name away, and nothing else does. -/
theorem act_issued (t : Tabs) (ht : t.ids.Nodup) (a : Action) :
    (t.act a).issued = t.issued + (openings [a]).length := by
  cases a with
  | openTab store now =>
      rcases t.openTab_cases store now with ⟨f, _, hvalue⟩ | ⟨s, _, hvalue⟩
      · rw [Tabs.act, hvalue]
        rfl
      · rw [Tabs.act, hvalue]
        rfl
  | close id =>
      rcases t.close_cases id with ⟨_, hvalue⟩ | ⟨t', hsome, hvalue⟩
      · rw [Tabs.act, hvalue]
        rfl
      · rw [Tabs.act, hvalue]
        exact (t.without?_eq_some t' id ht hsome).2.1
  | activate id =>
      rw [Tabs.act, activate]
      rcases t.focus?_cases id with ⟨hnone, _⟩ | ⟨t', hsome, _, _, hissued, _⟩
      · rw [hnone]
        rfl
      · rw [hsome]
        exact hissued
  | submit id input => rfl

/-- A name that is given out is the one of the next number. -/
theorem named_cases (t : Tabs) (a : Action) :
    t.named a = [] ∨ (t.named a = [nameOf (t.issued + 1)] ∧ (openings [a]).length = 1) := by
  cases a with
  | openTab store now =>
      rcases t.openTab_cases store now with ⟨f, _, hvalue⟩ | ⟨s, _, hvalue⟩
      · left
        rw [named, hvalue]
        rfl
      · right
        rw [named, hvalue]
        exact ⟨rfl, rfl⟩
  | close id => exact .inl rfl
  | activate id => exact .inl rfl
  | submit id input => exact .inl rfl

/-- Names are given out in order, and none of them twice. -/
theorem opened_increases {t : Tabs} (h : t.IsOrderly) (actions : List Action) :
    ∃ numbers : List Nat, t.opened actions = numbers.map nameOf ∧ numbers.Pairwise (· < ·) ∧
      ∀ n ∈ numbers, t.issued < n := by
  induction actions generalizing t with
  | nil => exact ⟨[], rfl, List.Pairwise.nil, fun n hn => absurd hn List.not_mem_nil⟩
  | cons a rest ih =>
      rcases ih (h.act a) with ⟨numbers, hnames, hnumbers, hlater⟩
      rw [t.act_issued h.nodup a] at hlater
      rcases t.named_cases a with hnone | ⟨hnamed, hone⟩
      · rw [opened, hnone, List.nil_append]
        exact ⟨numbers, hnames, hnumbers,
          fun n hn => Nat.lt_of_le_of_lt (Nat.le_add_right _ _) (hlater n hn)⟩
      · rw [hone] at hlater
        refine ⟨(t.issued + 1) :: numbers, ?_, List.pairwise_cons.mpr ⟨hlater, hnumbers⟩,
          fun n hn => ?_⟩
        · rw [opened, hnamed, hnames, List.map_cons, List.singleton_append]
        · rcases List.mem_cons.mp hn with heq | hrest
          · rw [heq]
            exact Nat.lt_succ_self _
          · exact Nat.lt_of_succ_lt (hlater n hrest)

/-! ### All changes -/

theorem closes {t : Tabs} (h : t.IsOrderly) (id : String) : t.Closes id := by
  rcases t.close_cases id with ⟨hnone, hvalue⟩ | ⟨t', hsome, hvalue⟩
  · have hrefused := (t.without?_eq_none_iff id).mp hnone
    refine ⟨?_, ?_, ?_, ?_, ?_⟩ <;> rw [hvalue]
    · exact iff_of_true rfl hrefused
    · exact fun _ => rfl
    · exact fun hdone => absurd hdone Bool.false_ne_true
    · exact fun hdone => absurd hdone Bool.false_ne_true
    · exact fun hdone => absurd hdone Bool.false_ne_true
  · have hdone : ¬ (id ∉ t.ids ∨ t.sessions.length = 1) := by
      rw [← without?_eq_none_iff, hsome]
      exact Option.some_ne_none t'
    rcases t.without?_eq_some t' id h.nodup hsome with ⟨hsessions, _, hactive, hother⟩
    refine ⟨?_, ?_, ?_, ?_, ?_⟩ <;> rw [hvalue]
    · exact iff_of_false Bool.true_eq_false.mp hdone
    · exact fun hrefused => absurd hrefused Bool.true_eq_false.mp
    · exact fun _ => hsessions
    · exact fun _ => hactive
    · exact fun _ => hother

theorem opens (t : Tabs) (store : ConfigStore) (now : Moment) : t.Opens store now := by
  rcases t.openTab_cases store now with ⟨f, _, hvalue⟩ | ⟨s, hs, hvalue⟩
  · refine ⟨?_, ?_⟩ <;> rw [hvalue]
    · exact fun _ _ => ⟨rfl, rfl⟩
    · exact fun id hid => absurd hid (by simp only [reduceCtorEq, not_false_eq_true])
  · refine ⟨?_, ?_⟩ <;> rw [hvalue]
    · exact fun f hf => absurd hf (by simp only [reduceCtorEq, not_false_eq_true])
    · exact fun id hid => ⟨s, hs.id_eq.trans (Except.ok.inj hid), rfl, rfl⟩

theorem activates (t : Tabs) (id : String) : t.Activates id := by
  rcases t.focus?_cases id with ⟨hnone, hclosed⟩ | ⟨t', hsome, hopen, hsessions, _, hactive⟩
  · have hvalue : t.activate id = (false, t) := by rw [activate, hnone]
    refine ⟨?_, ?_, ?_, ?_⟩ <;> rw [hvalue]
    · exact iff_of_true rfl hclosed
    · exact fun _ => rfl
    · exact fun hdone => absurd hdone Bool.false_ne_true
  · have hvalue : t.activate id = (true, t') := by rw [activate, hsome]
    refine ⟨?_, ?_, ?_, ?_⟩ <;> rw [hvalue]
    · exact iff_of_false Bool.true_eq_false.mp (not_not_intro hopen)
    · exact fun hrefused => absurd hrefused Bool.true_eq_false.mp
    · exact hsessions
    · exact fun _ => hactive

/-- What holds of the tabs after any run. Their names are those of increasing
    numbers, the active one is open, no name was given out twice, and closing,
    opening and activating a tab come to what they are meant to. -/
theorem stays_orderly (store : ConfigStore) (now : Moment) (t : Tabs)
    (h : (start store now).value = .ok t) (actions : List Action) :
    (t.run actions).IsOrderly ∧
      (t.run actions).get? (t.run actions).active.id = some (t.run actions).active ∧
      (∃ numbers : List Nat, t.active.id :: t.opened actions = numbers.map nameOf ∧
        numbers.Pairwise (· < ·)) ∧
      (∀ id, (t.run actions).Closes id) ∧
      (∀ store' now', (t.run actions).Opens store' now') ∧
      ∀ id, (t.run actions).Activates id := by
  have hstart := start_isOrderly store now t h
  have hrun := hstart.run actions
  refine ⟨hrun, get?_of_mem _ hrun.nodup _ (active_mem_sessions _), ?_, closes hrun, opens _,
    activates _⟩
  -- The first tab has the first number, and those that are opened get larger ones.
  rcases start_ok store now t h with ⟨s, hs, rfl⟩
  rcases opened_increases hstart actions with ⟨numbers, hnames, hnumbers, hlater⟩
  refine ⟨1 :: numbers, ?_, List.pairwise_cons.mpr ⟨hlater, hnumbers⟩⟩
  rw [hnames, List.map_cons, hs.id_eq]

/-- A configuration that no session can be made from. -/
def sectionless : ConfigStore := ⟨some { session := .replaced (.int 5) }⟩

/-- Three more tabs, of which the second cannot be opened, and changes that
    close the first of them and are refused. -/
def mixedActions : List Action :=
  [.openTab {} ⟨2024, 3, 5, 12, 0, 0⟩, .openTab sectionless ⟨2024, 3, 5, 12, 0, 0⟩,
    .openTab {} ⟨2024, 3, 5, 12, 0, 0⟩, .close "2", .activate "3", .close "3", .activate "1"]

/-- The number of the tab that could not be opened is not given out, and neither
    is the one of the tab that was closed. -/
theorem stays_orderly_mixed :
    ∃ t, (start {} ⟨2024, 3, 5, 12, 0, 0⟩).value = .ok t ∧
      (t.run mixedActions).ids = ["1", "4"] ∧ (t.run mixedActions).active.id = "1" ∧
      (t.run mixedActions).IsOrderly ∧ (t.run mixedActions).Closes "4" := by
  have hrun : ∃ t, (start {} ⟨2024, 3, 5, 12, 0, 0⟩).value = .ok t ∧
      (t.run mixedActions).ids = ["1", "4"] ∧ (t.run mixedActions).active.id = "1" :=
    ⟨_, rfl, rfl, rfl⟩
  rcases hrun with ⟨t, ht, hids, hactive⟩
  have hall := stays_orderly {} _ t ht mixedActions
  exact ⟨t, ht, hids, hactive, hall.1, hall.2.2.2.1 "4"⟩

end Tabs

end SimTerm
