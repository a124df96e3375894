import SimTerm.Proofs.Registry
import SimTerm.Proofs.Session.Personas
import SimTerm.Proofs.Text.Lowercase

/-!
# What a Session Has in Store

How the registry of a session and the name of its active theme change.

Of all the ways in which a command can end three touch what is in store. A
workflow is added, a theme is added, or a theme that is there becomes the active
one. The first two look at a file and the third at the registry, but for what
comes of it that makes no difference, so these are the constructors of
`Restocked`, next to the one for no change at all.

A line is one command, and any other turn does not touch the registry, so every
turn is one such change. What is kept by all of them is kept along runs
(`stock_invariant`). There is one law of this kind here: the workflows stand
under their own names (`isKeyed_turns`). The other is about themes and has a
module of its own.

## Main definitions

* `Registry.Knows`: There is a theme with a name.
* `Restocked`: How the registry and the active theme can change at once.

## Theorems

* `knows_addTheme`, `knows_lowered`: What adding a theme and small letters do to
  the names that are known.
* `restocked_perform`, `restocked_submit`, `restocked_dispatch`, `restocked_turn`:
  What a command, a line and a turn do to what is in store.
* `stock_invariant`: What is kept by every change is kept along runs.
* `isKeyed_turns`: The workflows of a session stand under their own names.
-/

namespace SimTerm

namespace Registry

/-- There is a theme with a name, whatever the case of its letters. -/
def Knows (r : Registry) (name : String) : Prop := ∃ t, r.theme? name = some t

/-- With one more theme its name is known, and so is what was known before. -/
theorem knows_addTheme (r : Registry) (name other : String) (t : Theme) :
    (r.addTheme name t).value.Knows other ↔ lowered name = lowered other ∨ r.Knows other := by
  simp only [Knows, theme?, addTheme, Fields.get?_set]
  split
  · next h => exact ⟨fun _ => .inl h, fun _ => ⟨t, rfl⟩⟩
  · next h => exact ⟨.inr, fun hother => hother.resolve_left h⟩

/-- Small letters stay as they are, so they make no other name. -/
theorem knows_lowered (r : Registry) (name : String) : r.Knows (lowered name) ↔ r.Knows name := by
  rw [Knows, Knows, theme?, theme?, lowered_lowered]

theorem standard_knows : standard.Knows Theme.standardName := ⟨.asam, by rfl⟩

end Registry

namespace Session

/-- How the registry and the active theme of a session can change at once. -/
inductive Restocked (r : Registry) (active : String) : Registry → String → Prop where
  /-- Not at all. -/
  | same : Restocked r active r active
  /-- A theme that is there becomes the active one. -/
  | chosen (name : String) (h : r.Knows name) : Restocked r active r (lowered name)
  /-- A theme is added. -/
  | themeAdded (name : String) (t : Theme) : Restocked r active (r.addTheme name t).value active
  /-- A workflow is added. -/
  | workflowAdded (w : Workflow) : Restocked r active (r.store w) active

/-! ### One turn -/

theorem restocked_perform (now : Moment) (b : Builtin) (c : Command) (s : Session) :
    Restocked s.registry s.theme (s.perform now b c).value.2.registry
      (s.perform now b c).value.2.theme := by
  have hend := perform_ending now c s b
  generalize (s.perform now b c).value.1 = o at hend
  generalize (s.perform now b c).value.2 = s' at hend ⊢
  cases hend with
  | themed name t _ _ ht => exact .chosen name ⟨t, ht⟩
  | themeStored name _ _ _ t => exact .themeAdded name t
  | workflowStored _ _ w => exact .workflowAdded w
  | _ => exact .same

/-- A line is the command that it calls, in a session with the same stock. -/
theorem restocked_line (now : Moment) (call : Option (Builtin × Command))
    (s ready after : Session) (hready : ready.registry = s.registry ∧ ready.theme = s.theme)
    (h : (∃ b c, call = some (b, c) ∧ (after.registry, after.theme) =
        ((ready.perform now b c).value.2.registry, (ready.perform now b c).value.2.theme)) ∨
      (call = none ∧ (after.registry, after.theme) = (s.registry, s.theme))) :
    Restocked s.registry s.theme after.registry after.theme := by
  rcases h with ⟨b, c, _, hafter⟩ | ⟨_, hafter⟩
  · rw [Prod.mk.injEq] at hafter
    rw [hafter.1, hafter.2, ← hready.1, ← hready.2]
    exact restocked_perform now b c ready
  · rw [Prod.mk.injEq] at hafter
    rw [hafter.1, hafter.2]
    exact .same

theorem restocked_submit (now : Moment) (raw : String) (s : Session) :
    Restocked s.registry s.theme (s.submit now raw).value.2.registry
      (s.submit now raw).value.2.theme :=
  restocked_line now _ s s.ready _ ⟨rfl, rfl⟩
    (submit_called (fun s => (s.registry, s.theme)) (fun _ _ _ _ _ => rfl) now raw s)

theorem restocked_dispatch (now : Moment) (raw : String) (s : Session) :
    Restocked s.registry s.theme (s.act (.dispatch now raw)).registry
      (s.act (.dispatch now raw)).theme :=
  restocked_line now _ s s _ ⟨rfl, rfl⟩
    (act_dispatch_called (fun s => (s.registry, s.theme)) (fun _ _ => rfl) now raw s)

theorem welcome_stock (s : Session) :
    (s.act .welcome).registry = s.registry ∧ (s.act .welcome).theme = s.theme := by
  rw [act]
  unfold welcome
  cases s.config.terminal.demand <;> exact ⟨rfl, rfl⟩

/-- A turn is one change of what is in store. -/
theorem restocked_turn (s : Session) (t : Turn) :
    Restocked s.registry s.theme (s.turn t).registry (s.turn t).theme := by
  cases t with
  | registered name run => exact .same
  | operated op => exact .same
  | happened h =>
      cases h with
      | filesReplaced files => exact .same
      | settingReplaced store =>
          rw [turn, undergo, observe]
          -- What is in store is no setting.
          split <;> exact .same
      | acted a =>
          cases a with
          | submit now raw =>
              rw [turn_submit]
              exact restocked_submit now raw s
          | dispatch now raw => exact restocked_dispatch now raw s
          | welcome =>
              rw [turn, undergo, (welcome_stock s).1, (welcome_stock s).2]
              exact .same
          | render text => exact .same
          | recallPrevious => exact .same
          | recallNext => exact .same

/-! ### Runs -/

/-- What is kept by every change of the stock is kept along every run. -/
theorem stock_invariant (P : Registry → String → Prop)
    (hkept : ∀ r active r' active', Restocked r active r' active' → P r active → P r' active')
    (s : Session) (turns : List Turn) (hs : P s.registry s.theme) :
    P (turns.foldl turn s).registry (turns.foldl turn s).theme := by
  induction turns generalizing s with
  | nil => exact hs
  | cons t rest ih => exact ih (s.turn t) (hkept _ _ _ _ (restocked_turn s t) hs)

theorem ofConfig_stock (id : String) (c : Config) (isWatching : Bool) (now : Moment) (s : Session)
    (h : ofConfig id c isWatching now = .ok s) :
    s.registry = .standard ∧ s.theme = Theme.standardName := by
  rcases ofConfig_eq id c isWatching now s h with ⟨files, shell, kept, remembered, rfl⟩
  exact ⟨rfl, rfl⟩

theorem Restocked.isKeyed {r r' : Registry} {active active' : String}
    (h : Restocked r active r' active') (hr : r.IsKeyed) : r'.IsKeyed := by
  cases h with
  | same => exact hr
  | chosen => exact hr
  | themeAdded => exact ⟨hr.own, hr.nodup⟩
  | workflowAdded w => exact hr.store w

/-- The workflows of a session stand under their own names. -/
theorem isKeyed_turns (id : String) (c : Config) (isWatching : Bool) (now : Moment) (s : Session)
    (h : ofConfig id c isWatching now = .ok s) (turns : List Turn) :
    (turns.foldl turn s).registry.IsKeyed := by
  refine stock_invariant (fun r _ => r.IsKeyed) (fun _ _ _ _ h => h.isKeyed) s turns ?_
  rw [(ofConfig_stock id c isWatching now s h).1]
  exact Registry.standard_isKeyed

/-- The files of a session are exchanged for a single one. -/
def onlyFile (name text : String) : Turn :=
  .happened (.filesReplaced
    { root := FileSystem.newDirectory {} noon "/" [FileSystem.newFile {} noon name text]
      cwd := [], settings := {} })

end Session

end SimTerm
