import Mathlib.Data.List.Nodup
import SimTerm.Proofs.Fields
import SimTerm.Registry

/-!
# Workflows in Store

What is found, listed and searched after workflows were added one after the
other.

A workflow is stored under its name in small letters, so the names of a run are
what counts and not their spelling. Two things have to be said about a name that
comes up again, and they pull in different directions. The record that is found
is the one that was added last, but it is listed at the place of the one that
was added first. Both are laws of fields by name, and the first of them is all
that a look-up needs (`get?_addAll`).

That the list has nothing else takes an invariant: every record stands under its
own name, and no name has two (`IsKeyed`). Storing keeps it, so it holds after
every run, and then a record in the list is the one that its name finds. What
the list has is then told by its names alone (`map_key_list`).

A search goes through the list and looks into three kinds of texts. It is the
list without the records in which the query stands nowhere (`search_eq_filter`),
so it has the order of the list and no record twice.

## Main definitions

* `Workflow.key`: The name that a workflow is stored under.
* `Workflow.Mentions`: A text stands in what a workflow says of itself.
* `Registry.addAll`: The registry after some workflows were added.
* `Registry.IsKeyed`: Every record stands under its own name.

## Theorems

* `IsKeyed.store`, `IsKeyed.addAll`: What is kept by one addition and by a run.
* `get?_addAll`: What a name finds after a run.
* `map_key_list`: The names of the list.
* `search_eq_filter`: What a search finds.
* `latest_in_first_order`: All of this for the registry of a new session.
-/

namespace SimTerm

namespace Workflow

/-- The name that a workflow is stored under. -/
def key (w : Workflow) : String := lowered w.name

/-- The texts that a search looks into. -/
def searchedTexts (w : Workflow) : List String := w.name :: (w.description.toList ++ w.tags)

/-- A text stands in one of them, whatever the case of its letters. -/
def Mentions (w : Workflow) (query : String) : Prop :=
  ∃ text ∈ w.searchedTexts, (lowered query).toList <:+: (lowered text).toList

instance (w : Workflow) (query : String) : Decidable (w.Mentions query) :=
  inferInstanceAs (Decidable (∃ text ∈ w.searchedTexts, _))

end Workflow

namespace Registry

/-- The registry after some workflows were added, one after the other. -/
def addAll (r : Registry) (ws : List Workflow) : Registry :=
  ws.foldl (fun r w => (r.add w).value) r

/-- Every workflow stands under its own name, and no name has two of them. -/
structure IsKeyed (r : Registry) : Prop where
  /-- Every workflow stands under its own name. -/
  own : ∀ f ∈ r.workflows, f.1 = f.2.key
  /-- No name is listed twice. -/
  nodup : (Fields.names r.workflows).Nodup

/-! ### Storing -/

theorem workflows_store (r : Registry) (w : Workflow) :
    (r.store w).workflows = Fields.set r.workflows w.key w := by
  rw [store, Workflow.key]

theorem IsKeyed.store {r : Registry} (h : r.IsKeyed) (w : Workflow) : (r.store w).IsKeyed where
  own := fun f hf => by
    rw [workflows_store] at hf
    rcases Fields.mem_set r.workflows w.key w f hf with rfl | hold
    · rfl
    · exact h.own f hold
  nodup := by
    rw [workflows_store]
    exact Fields.nodup_names_set r.workflows w.key w h.nodup

theorem IsKeyed.addAll {r : Registry} (h : r.IsKeyed) (ws : List Workflow) :
    (r.addAll ws).IsKeyed := by
  induction ws generalizing r with
  | nil => exact h
  | cons w rest ih => exact ih (h.store w)

theorem isKeyed_empty (themes : List (String × Theme)) : IsKeyed { themes } where
  own := fun _ hf => absurd hf List.not_mem_nil
  nodup := List.nodup_nil

/-- The registry of a new session is made by adding the standard workflows. -/
theorem standard_eq : standard = addAll { themes := [(Theme.standardName, .asam)] }
    Workflow.standard := by
  rw [standard, addAll]
  rfl

theorem standard_isKeyed : standard.IsKeyed := by
  rw [standard_eq]
  exact (isKeyed_empty _).addAll _

theorem workflows_addAll (r : Registry) (ws : List Workflow) :
    (r.addAll ws).workflows =
      (ws.map (fun w => (w.key, w))).foldl (fun fields f => Fields.set fields f.1 f.2)
        r.workflows := by
  induction ws generalizing r with
  | nil => rfl
  | cons w rest ih => exact ih (r.store w)

/-! ### Finding -/

/-- A name finds the workflow that was added last under it, or else what it found
    before. -/
theorem get?_addAll (r : Registry) (ws : List Workflow) (name : String) :
    (r.addAll ws).get? name =
      (ws.filter (fun w => w.key = lowered name)).getLast?.or (r.get? name) := by
  rw [get?, workflows_addAll, Fields.get?_foldl_set, List.filter_map, List.getLast?_map,
    Option.map_map]
  have hback : Prod.snd ∘ (fun w : Workflow => (w.key, w)) = id := rfl
  rw [hback, Option.map_id_fun, id_eq]
  rfl

/-- A workflow in the list is the one that its name finds. -/
theorem IsKeyed.get?_of_mem {r : Registry} (h : r.IsKeyed) (w : Workflow) (hw : w ∈ r.list) :
    r.get? w.name = some w := by
  rcases List.mem_map.mp hw with ⟨f, hf, rfl⟩
  have hfound := Fields.get?_of_mem r.workflows h.nodup f hf
  rw [h.own f hf] at hfound
  exact hfound

/-- The workflow that a name finds has that name, up to the case of its letters. -/
theorem IsKeyed.key_of_get? {r : Registry} (h : r.IsKeyed) (name : String) (w : Workflow)
    (hw : r.get? name = some w) : w.key = lowered name :=
  (h.own _ (Fields.mem_of_get? r.workflows (lowered name) w hw)).symm

/-! ### Listing -/

theorem IsKeyed.map_key_list {r : Registry} (h : r.IsKeyed) :
    r.list.map Workflow.key = Fields.names r.workflows := by
  rw [list, List.map_map, Fields.names]
  exact List.map_congr_left fun f hf => (h.own f hf).symm

/-- After a run from nothing the list has each name once, where it came up first. -/
theorem map_key_list (themes : List (String × Theme)) (ws : List Workflow) :
    (addAll { themes } ws).list.map Workflow.key = (ws.map Workflow.key).eraseDups := by
  rw [((isKeyed_empty themes).addAll ws).map_key_list, workflows_addAll, Fields.names_foldl_set,
    Fields.names, List.map_map]
  rfl

/-! ### Searching -/

theorem isInfix_iff_occursIn (needle text : List Char) :
    Text.occursIn needle text = true ↔ needle <:+: text := by
  rw [Text.occursIn_iff]
  exact ⟨fun ⟨before, behind, h⟩ => ⟨before, behind, h.symm⟩,
    fun ⟨before, behind, h⟩ => ⟨before, behind, h.symm⟩⟩

/-- An empty description is passed over by a search, which makes no difference:
    only the empty text stands in it, and that stands in the name too. -/
theorem isFoundBy_iff (w : Workflow) (query : String) :
    w.isFoundBy (Text.lower query.toList) = true ↔ w.Mentions query := by
  have hlowered : ∀ s : String, (lowered s).toList = Text.lower s.toList := fun s => by
    rw [lowered, String.toList_ofList]
  simp only [Workflow.isFoundBy, Workflow.Mentions, Workflow.searchedTexts, hlowered,
    Bool.or_eq_true, List.any_eq_true, isInfix_iff_occursIn, List.mem_cons, List.mem_append,
    exists_eq_left, or_and_right, exists_or, or_assoc]
  refine or_congr_right' fun hname => or_congr_left ?_
  cases w.description with
  | none => simp
  | some d =>
      have hempty : d = "" → ¬ Text.lower query.toList <:+: Text.lower d.toList := by
        rintro rfl hquery
        exact hname (List.eq_nil_of_infix_nil hquery ▸ List.nil_infix)
      simp only [Bool.and_eq_true, Bool.not_eq_true', isInfix_iff_occursIn, Option.toList_some,
        List.mem_singleton, exists_eq_left, and_iff_right_iff_imp]
      intro hquery
      rw [Bool.eq_false_iff, ne_eq, String.isEmpty_iff]
      exact fun hd => hempty hd hquery

/-- A search leaves out the workflows in which the query stands nowhere. -/
theorem search_eq_filter (r : Registry) (query : String) :
    r.search query = r.list.filter (fun w => w.Mentions query) := by
  rw [search]
  refine List.filter_congr fun w _ => ?_
  rw [Bool.eq_iff_iff, isFoundBy_iff, decide_eq_true_eq]

/-- The registry after any workflows were added to the one of a new session. All
    that was ever added counts, the standard workflows first. A name finds the
    one that was added last under it, whatever the case of its letters. The list
    has one workflow for each name, in the order in which the names came up
    first, and it is the one that the name finds. A search finds the workflows
    of the list in which the query stands, in the same order and none twice. -/
theorem latest_in_first_order (ws : List Workflow) (query : String) :
    let r := standard.addAll ws
    let added := Workflow.standard ++ ws
    r.get? query = (added.filter (fun w => w.key = lowered query)).getLast? ∧
      r.list.map Workflow.key = (added.map Workflow.key).eraseDups ∧
      (r.list.map Workflow.key).Nodup ∧
      (∀ w ∈ r.list, r.get? w.name = some w) ∧
      r.search query = r.list.filter (fun w => w.Mentions query) ∧ (r.search query).Nodup := by
  intro r added
  -- The standard workflows were added in the same way, so that all of them are one run.
  have hr : r = addAll { themes := [(Theme.standardName, .asam)] } added := by
    change standard.addAll ws = _
    rw [standard_eq, addAll, addAll, addAll, List.foldl_append]
  have hkeyed : r.IsKeyed := standard_isKeyed.addAll ws
  have hnodup : (r.list.map Workflow.key).Nodup := by
    rw [hkeyed.map_key_list]
    exact hkeyed.nodup
  refine ⟨?_, ?_, hnodup, hkeyed.get?_of_mem, search_eq_filter r query, ?_⟩
  · rw [hr, get?_addAll]
    exact Option.or_none
  · rw [hr, map_key_list]
  · rw [search_eq_filter]
    exact (List.Nodup.of_map _ hnodup).filter _

end Registry

end SimTerm
