import Mathlib.Data.List.Induction
import SimTerm.Json

/-!
# Fields by Name

What looking up, storing and listing do to each other.

Fields are a list that is searched from the front, so a name may in principle
stand in it twice. Storing never lets that happen, and for a look-up only the
first field under a name counts. That is all the laws below say: a stored value
is found under its name and all other names find what they found before
(`get?_set`), a name is listed exactly when it finds something
(`mem_names_iff`), and storing lists no more than the name it stores under
(`mem_names_set`). A new name is listed last and any other keeps its place
(`names_set`). So after many fields were stored, each name finds the one that was
stored last under it (`get?_foldl_set`) and stands where it came up first
(`names_foldl_set`). Where all names are different, the fields keep their order
(`foldl_set_of_nodup`).

## Theorems

* `get?_map`: What is found among fields with other values.
* `mem_of_get?`, `get?_of_mem`: What is found is there, and what is there is found.
* `get?_set`: What is found after storing.
* `mem_names_iff`: The names that find something.
* `mem_names_set`, `names_set`: The names after storing, and their order.
* `foldl_set_of_nodup`: Fields that are stored one after the other.
* `get?_foldl_set`, `names_foldl_set`: The same where names come up again.
-/

namespace SimTerm

namespace Fields

variable {α : Type}

theorem get?_cons (f : String × α) (fields : List (String × α)) (name : String) :
    get? (f :: fields) name = if f.1 = name then some f.2 else get? fields name := by
  unfold get?
  by_cases h : f.1 = name
  · rw [List.find?_cons_of_pos (by rw [h, beq_self_eq_true]), if_pos h, Option.map_some]
  · rw [List.find?_cons_of_neg (by rw [beq_iff_eq]; exact h), if_neg h]

/-- Fields with the values that come of their names and values find what comes of
    what was found. -/
theorem get?_map {β : Type} (fields : List (String × α)) (g : String → α → β) (name : String) :
    get? (fields.map (fun f => (f.1, g f.1 f.2))) name = (get? fields name).map (g name) := by
  induction fields with
  | nil => rfl
  | cons f rest ih =>
      rw [List.map_cons, get?_cons, get?_cons, ih]
      by_cases hname : f.1 = name
      · rw [if_pos hname, if_pos hname, Option.map_some, hname]
      · rw [if_neg hname, if_neg hname]

/-- What is found under a name is a field with that name. -/
theorem mem_of_get? (fields : List (String × α)) (name : String) (value : α)
    (h : get? fields name = some value) : (name, value) ∈ fields := by
  unfold get? at h
  rcases Option.map_eq_some_iff.mp h with ⟨f, hf, hvalue⟩
  have hname := List.find?_some hf
  rw [beq_iff_eq] at hname
  rw [← hname, ← hvalue]
  exact List.mem_of_find?_eq_some hf

/-- A stored value is found under its name, and other names find what they found
    before. -/
theorem get?_set (fields : List (String × α)) (name other : String) (value : α) :
    get? (set fields name value) other =
      if name = other then some value else get? fields other := by
  induction fields with
  | nil => exact get?_cons (name, value) [] other
  | cons f rest ih =>
      rw [set]
      by_cases hname : f.1 = name
      · -- The value takes the place of what was under its name.
        rw [if_pos (by rw [hname, beq_self_eq_true]), get?_cons, get?_cons, hname]
        dsimp only
        split <;> rfl
      · rw [if_neg (by rw [beq_iff_eq]; exact hname), get?_cons, get?_cons, ih]
        by_cases hother : f.1 = other
        · rw [if_pos hother, if_pos hother, if_neg (fun h => hname (hother.trans h.symm))]
        · rw [if_neg hother, if_neg hother]

/-- The names that are listed are those that find something. -/
theorem mem_names_iff (fields : List (String × α)) (name : String) :
    name ∈ names fields ↔ ∃ value, get? fields name = some value := by
  induction fields with
  | nil => simp only [names, get?, List.map_nil, List.not_mem_nil, List.find?_nil,
      Option.map_none, reduceCtorEq, exists_false]
  | cons f rest ih =>
      rw [get?_cons, names, List.map_cons, List.mem_cons]
      by_cases h : f.1 = name
      · rw [if_pos h]
        exact ⟨fun _ => ⟨f.2, rfl⟩, fun _ => .inl h.symm⟩
      · rw [if_neg h, ← ih]
        exact ⟨fun hmem => hmem.resolve_left (fun heq => h heq.symm), .inr⟩

/-- Storing lists the name that it stores under, and no other one. -/
theorem mem_names_set (fields : List (String × α)) (name other : String) (value : α) :
    other ∈ names (set fields name value) ↔ other ∈ names fields ∨ other = name := by
  rw [mem_names_iff, mem_names_iff, get?_set]
  by_cases h : name = other
  · rw [if_pos h]
    exact ⟨fun _ => .inr h.symm, fun _ => ⟨value, rfl⟩⟩
  · rw [if_neg h]
    exact ⟨.inl, fun hmem => hmem.resolve_right (fun heq => h heq.symm)⟩

/-- A field with a new name comes behind all others. -/
theorem set_of_not_mem (fields : List (String × α)) (name : String) (value : α)
    (h : name ∉ names fields) : set fields name value = fields ++ [(name, value)] := by
  induction fields with
  | nil => rfl
  | cons f rest ih =>
      rw [names, List.map_cons, List.mem_cons, not_or] at h
      rw [set, if_neg (by rw [beq_iff_eq]; exact Ne.symm h.1), ih h.2, List.cons_append]

/-- Fields with new names that are all different come behind the others in
    their order. -/
theorem foldl_set_of_nodup (stored fields : List (String × α))
    (hnew : ∀ f ∈ stored, f.1 ∉ names fields) (hnodup : (names stored).Nodup) :
    stored.foldl (fun fields f => set fields f.1 f.2) fields = fields ++ stored := by
  induction stored generalizing fields with
  | nil => rw [List.foldl_nil, List.append_nil]
  | cons f rest ih =>
      rw [names, List.map_cons, List.nodup_cons] at hnodup
      have hbehind : ∀ g ∈ rest, g.1 ∉ names (set fields f.1 f.2) := by
        intro g hg hmem
        rcases (mem_names_set fields f.1 g.1 f.2).mp hmem with hold | hsame
        · exact hnew g (List.mem_cons_of_mem _ hg) hold
        · exact hnodup.1 (hsame ▸ List.mem_map_of_mem hg)
      rw [List.foldl_cons, ih _ hbehind hnodup.2,
        set_of_not_mem fields f.1 f.2 (hnew f List.mem_cons_self), List.append_assoc,
        List.singleton_append]

/-- A name that is taken keeps its place, and a new one is listed last. -/
theorem names_set (fields : List (String × α)) (name : String) (value : α) :
    names (set fields name value) =
      if name ∈ names fields then names fields else names fields ++ [name] := by
  by_cases h : name ∈ names fields
  · rw [if_pos h]
    induction fields with
    | nil => exact absurd h List.not_mem_nil
    | cons f rest ih =>
        rw [set]
        by_cases hname : f.1 = name
        · rw [if_pos (by rw [hname, beq_self_eq_true]), names, names, List.map_cons, List.map_cons,
            hname]
        · rw [if_neg (by rw [beq_iff_eq]; exact hname), names, names, List.map_cons, List.map_cons]
          exact congrArg (f.1 :: ·) (ih ((List.mem_cons.mp h).resolve_left (Ne.symm hname)))
  · rw [if_neg h, set_of_not_mem fields name value h, names, List.map_append]
    rfl

/-- After fields were stored one after the other, a name finds the one that was
    stored last under it, or else what it found before. -/
theorem get?_foldl_set (stored fields : List (String × α)) (name : String) :
    get? (stored.foldl (fun fields f => set fields f.1 f.2) fields) name =
      ((stored.filter (fun f => f.1 = name)).getLast?.map Prod.snd).or (get? fields name) := by
  induction stored using List.reverseRecOn with
  | nil => rfl
  | append_singleton stored f ih =>
      rw [List.foldl_append, List.foldl_cons, List.foldl_nil, get?_set, List.filter_append]
      by_cases h : f.1 = name
      · have hlast : [f].filter (fun f => f.1 = name) = [f] :=
          List.filter_eq_self.mpr (List.forall_mem_singleton.mpr (decide_eq_true h))
        rw [if_pos h, hlast, List.getLast?_concat]
        rfl
      · have hnone : [f].filter (fun f => f.1 = name) = [] :=
          List.filter_eq_nil_iff.mpr (List.forall_mem_singleton.mpr (by simpa using h))
        rw [if_neg h, ih, hnone, List.append_nil]

/-- Fields that are stored one after the other list each name once, where it came
    up first. -/
theorem names_foldl_set (stored : List (String × α)) :
    names (stored.foldl (fun fields f => set fields f.1 f.2) []) = (names stored).eraseDups := by
  induction stored using List.reverseRecOn with
  | nil => rfl
  | append_singleton stored f ih =>
      have hnames : names (stored ++ [f]) = names stored ++ [f.1] := by
        rw [names, List.map_append]
        rfl
      rw [List.foldl_append, List.foldl_cons, List.foldl_nil, names_set, ih, hnames,
        List.eraseDups_append, List.removeAll]
      by_cases h : f.1 ∈ names stored
      · rw [if_pos (List.mem_eraseDups.mpr h), List.filter_cons_of_neg (by simpa using h),
          List.filter_nil, List.eraseDups_nil, List.append_nil]
      · rw [if_neg (fun hmem => h (List.mem_eraseDups.mp hmem)),
          List.filter_cons_of_pos (by simpa using h), List.filter_nil]
        rfl

/-- What is there after storing is the stored field or was there before. -/
theorem mem_set (fields : List (String × α)) (name : String) (value : α) (f : String × α)
    (h : f ∈ set fields name value) : f = (name, value) ∨ f ∈ fields := by
  induction fields with
  | nil => exact .inl (List.mem_singleton.mp h)
  | cons g rest ih =>
      rw [set] at h
      split at h
      · rcases List.mem_cons.mp h with hsame | hrest
        · exact .inl hsame
        · exact .inr (List.mem_cons_of_mem _ hrest)
      · rcases List.mem_cons.mp h with hfirst | hrest
        · exact .inr (hfirst ▸ List.mem_cons_self)
        · exact (ih hrest).imp_right (List.mem_cons_of_mem _)

/-- Where no name is listed twice, each field is the one that its name finds. -/
theorem get?_of_mem (fields : List (String × α)) (hnodup : (names fields).Nodup)
    (f : String × α) (h : f ∈ fields) : get? fields f.1 = some f.2 := by
  induction fields with
  | nil => exact absurd h List.not_mem_nil
  | cons g rest ih =>
      rw [names, List.map_cons, List.nodup_cons] at hnodup
      rw [get?_cons]
      rcases List.mem_cons.mp h with rfl | hrest
      · rw [if_pos rfl]
      · have hother : g.1 ≠ f.1 := fun hsame => hnodup.1 (hsame ▸ List.mem_map_of_mem hrest)
        rw [if_neg hother, ih hnodup.2 hrest]

/-- Storing never lists a name twice. -/
theorem nodup_names_set (fields : List (String × α)) (name : String) (value : α)
    (h : (names fields).Nodup) : (names (set fields name value)).Nodup := by
  rw [names_set]
  split
  · exact h
  · rename_i hnew
    rw [List.nodup_append]
    refine ⟨h, List.pairwise_singleton _ name, fun other hother new hsingle hsame => ?_⟩
    rw [List.mem_singleton.mp hsingle] at hsame
    exact hnew (hsame ▸ hother)

end Fields

end SimTerm
