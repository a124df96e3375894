import SimTerm.Proofs.Writing
import SimTerm.Yaml.Document

/-!
# Values that Can be Shown

When a value of a document can be shown as a text.

A value is shown from its parts, and two things can keep it from being shown: a
whole number with too many digits somewhere in it, and more levels than there
is room for. `Value.Showable` says that no such number is in a value, its levels
are counted by `Value.levels`, and whatever keeps a value from being shown is one
of the two (`Value.hinders_of_display`). That a collection inside itself is left
out can only help.

Values are built from the cells of a document in rounds. A round puts values of
parts together and drops those under keys that come again, so it makes values
without such numbers from others without them (`showable_valueRound`).

## Main definitions

* `Value.Showable`: No number in a value has too many digits.
* `Value.levels`: How many levels a value has.
* `Value.Hinders`: Something keeps a value from being shown.
* `Cell.Showable`: No number that a cell holds has too many digits.

## Theorems

* `Value.hinders_of_literalIn`, `Value.hinders_of_display`: Why a value is not
  shown inside others and by itself.
* `showable_valueRound`: A round of building values makes no such numbers.
-/

namespace SimTerm

namespace Yaml

namespace Value

/-- No whole number in a value has more digits than can be shown. -/
inductive Showable : Value → Prop where
  | null : Showable .null
  | bool (b : Bool) : Showable (.bool b)
  /-- A whole number that can be shown. -/
  | int (n : Int) (h : (Text.writeInteger? n).isSome = true) : Showable (.int n)
  | float (x : Double) : Showable (.float x)
  | noNumber (node : Nat) : Showable (.noNumber node)
  | text (s : String) : Showable (.text s)
  | binary (bytes : List Nat) : Showable (.binary bytes)
  | date (year month day : Nat) : Showable (.date year month day)
  | time (t : Time) : Showable (.time t)
  | sequence (node : Nat) (items : List Value) (h : ∀ v ∈ items, Showable v) :
      Showable (.sequence node items)
  | pairs (node : Nat) (entries : List (Value × Value)) (hkeys : ∀ e ∈ entries, Showable e.1)
      (hvalues : ∀ e ∈ entries, Showable e.2) : Showable (.pairs node entries)
  | mapping (node : Nat) (entries : List (Value × Value)) (hkeys : ∀ e ∈ entries, Showable e.1)
      (hvalues : ∀ e ∈ entries, Showable e.2) : Showable (.mapping node entries)
  | set (members : List Value) (h : ∀ v ∈ members, Showable v) : Showable (.set members)
  | closed (node : Nat) (shape : Shape) : Showable (.closed node shape)

/-! ### Levels -/

mutual

/-- How many levels a value has, itself the first one. A pair in a row is a level
    of its own. -/
def levels : Value → Nat
  | .sequence _ items => levelsOfItems items + 1
  | .pairs _ entries => levelsOfEntries entries + 2
  | .mapping _ entries => levelsOfEntries entries + 1
  | .set members => levelsOfItems members + 1
  | _ => 1

/-- How many levels some values have at most. -/
def levelsOfItems : List Value → Nat
  | [] => 0
  | v :: vs => max (levels v) (levelsOfItems vs)

/-- How many levels some keys and values have at most. -/
def levelsOfEntries : List (Value × Value) → Nat
  | [] => 0
  | (k, v) :: rest => max (max (levels k) (levels v)) (levelsOfEntries rest)

end

theorem levels_le_of_mem {items : List Value} {v : Value} (h : v ∈ items) :
    v.levels ≤ levelsOfItems items := by
  induction items with
  | nil => exact absurd h List.not_mem_nil
  | cons w rest ih =>
      rw [levelsOfItems]
      rcases List.mem_cons.mp h with rfl | h
      · exact Nat.le_max_left _ _
      · exact (ih h).trans (Nat.le_max_right _ _)

theorem levels_le_of_mem_entries {entries : List (Value × Value)} {e : Value × Value}
    (h : e ∈ entries) : e.1.levels ≤ levelsOfEntries entries ∧
      e.2.levels ≤ levelsOfEntries entries := by
  induction entries with
  | nil => exact absurd h List.not_mem_nil
  | cons d rest ih =>
      rcases d with ⟨k, v⟩
      rw [levelsOfEntries]
      rcases List.mem_cons.mp h with rfl | h
      · exact ⟨(Nat.le_max_left _ _).trans (Nat.le_max_left _ _),
          (Nat.le_max_right _ _).trans (Nat.le_max_left _ _)⟩
      · exact (ih h).imp (·.trans (Nat.le_max_right _ _)) (·.trans (Nat.le_max_right _ _))

/-! ### Literals -/

/-- Something keeps a value from being shown where there is room for some levels:
    a number in it that is too long, or its levels. -/
def Hinders (v : Value) (room : Nat) : Unwritable → Prop
  | .tooManyDigits => ¬ v.Showable
  | .tooDeep => room < v.levels

/-- What keeps a part from being shown keeps the whole from it, which has more
    levels. -/
theorem Hinders.whole {v w : Value} {room more : Nat} {u : Unwritable} (h : v.Hinders room u)
    (hshow : w.Showable → v.Showable) (hlevels : v.levels + more ≤ w.levels) :
    w.Hinders (room + more) u := by
  cases u with
  | tooManyDigits => exact mt hshow h
  | tooDeep =>
      have hroom : room < v.levels := h
      exact Nat.lt_of_lt_of_le (Nat.add_lt_add_right hroom more) hlevels

/-- Less room keeps a value from being shown as well. -/
theorem Hinders.weaken {v : Value} {room : Nat} {u : Unwritable} (h : v.Hinders (room + 1) u) :
    v.Hinders room u := by
  cases u with
  | tooManyDigits => exact h
  | tooDeep => exact Nat.lt_of_succ_lt h

theorem Hinders.of_item {node : Nat} {items : List Value} {v : Value} {room : Nat}
    {u : Unwritable} (hv : v ∈ items) (h : v.Hinders room u) :
    (sequence node items).Hinders (room + 1) u := by
  refine h.whole (fun hshow => ?_) (Nat.add_le_add_right (levels_le_of_mem hv) 1)
  cases hshow with
  | sequence _ _ hall => exact hall v hv

theorem Hinders.of_member {members : List Value} {v : Value} {room : Nat} {u : Unwritable}
    (hv : v ∈ members) (h : v.Hinders room u) : (set members).Hinders (room + 1) u := by
  refine h.whole (fun hshow => ?_) (Nat.add_le_add_right (levels_le_of_mem hv) 1)
  cases hshow with
  | set _ hall => exact hall v hv

theorem Hinders.of_entry {node : Nat} {entries : List (Value × Value)} {e : Value × Value}
    {room : Nat} {u : Unwritable} (he : e ∈ entries)
    (h : e.1.Hinders room u ∨ e.2.Hinders room u) :
    (mapping node entries).Hinders (room + 1) u := by
  have hlevels := levels_le_of_mem_entries he
  rcases h with h | h
  · refine h.whole (fun hshow => ?_) (Nat.add_le_add_right hlevels.1 1)
    cases hshow with
    | mapping _ _ hkeys _ => exact hkeys e he
  · refine h.whole (fun hshow => ?_) (Nat.add_le_add_right hlevels.2 1)
    cases hshow with
    | mapping _ _ _ hvalues => exact hvalues e he

theorem Hinders.of_pair {node : Nat} {entries : List (Value × Value)} {e : Value × Value}
    {room : Nat} {u : Unwritable} (he : e ∈ entries)
    (h : e.1.Hinders room u ∨ e.2.Hinders room u) :
    (pairs node entries).Hinders (room + 2) u := by
  have hlevels := levels_le_of_mem_entries he
  rcases h with h | h
  · refine h.whole (fun hshow => ?_) (Nat.add_le_add_right hlevels.1 2)
    cases hshow with
    | pairs _ _ hkeys _ => exact hkeys e he
  · refine h.whole (fun hshow => ?_) (Nat.add_le_add_right hlevels.2 2)
    cases hshow with
    | pairs _ _ _ hvalues => exact hvalues e he

/-- Where a row of pairs is not shown, there is no room for a pair or something in
    one keeps the row from it. -/
theorem hinders_of_pairs (node : Nat) {entries : List (Value × Value)} {room : Nat}
    {u : Unwritable} (h : room = 0 ∧ u = .tooDeep ∨
      ∃ e ∈ entries, ∃ left, room = left + 1 ∧ (e.1.Hinders left u ∨ e.2.Hinders left u)) :
    (pairs node entries).Hinders (room + 1) u := by
  rcases h with ⟨rfl, rfl⟩ | ⟨e, he, left, rfl, hinders⟩
  · exact Nat.lt_add_of_pos_left (Nat.succ_pos _)
  · exact .of_pair he hinders

theorem levels_pos (v : Value) : 0 < v.levels := by cases v <;> simp [levels]

mutual

/-- Where a value is not shown inside others, something in it keeps it from it. -/
theorem hinders_of_literalIn (v : Value) (around : List Place) (room : Nat) (u : Unwritable)
    (h : literalIn around v room = .error u) : v.Hinders room u := by
  cases room with
  | zero =>
      have hroom : literalIn around v 0 = .error .tooDeep := by cases v <;> rfl
      rw [hroom] at h
      cases h
      exact v.levels_pos
  | succ room =>
      cases v with
      | int n =>
          rw [literalIn] at h
          split at h
          · exact absurd h (by simp only [reduceCtorEq, not_false_eq_true])
          case h_2 hn =>
            cases h
            rintro (_ | _ | ⟨_, hshort⟩)
            rw [hn] at hshort
            exact absurd hshort Bool.false_ne_true
      | sequence node items =>
          rw [literalIn] at h
          split at h
          · exact absurd h (by simp only [reduceCtorEq, not_false_eq_true])
          · rw [Except.map_eq_error_iff] at h
            rcases hinders_of_literalsIn items _ room u h with ⟨v, hv, hinders⟩
            exact .of_item hv hinders
      | pairs node entries =>
          rw [literalIn] at h
          split at h
          · exact absurd h (by simp only [reduceCtorEq, not_false_eq_true])
          · rw [Except.map_eq_error_iff] at h
            exact hinders_of_pairs node (hinders_of_pairLiteralsIn entries _ node 0 room u h)
      | mapping node entries =>
          rw [literalIn] at h
          split at h
          · exact absurd h (by simp only [reduceCtorEq, not_false_eq_true])
          · rw [Except.map_eq_error_iff] at h
            rcases hinders_of_entryLiteralsIn entries _ room u h with ⟨e, he, hinders⟩
            exact .of_entry he hinders
      | set members =>
          rw [literalIn, Except.map_eq_error_iff] at h
          rcases hinders_of_literalsIn members _ room u h with ⟨v, hv, hinders⟩
          exact .of_member hv hinders
      | _ => exact absurd h (by simp only [literalIn, reduceCtorEq, not_false_eq_true])

theorem hinders_of_literalsIn (items : List Value) (around : List Place) (room : Nat)
    (u : Unwritable) (h : literalsIn around items room = .error u) :
    ∃ v ∈ items, v.Hinders room u := by
  cases items with
  | nil => exact absurd h (by simp only [literalsIn, reduceCtorEq, not_false_eq_true])
  | cons v rest =>
      rw [literalsIn] at h
      rcases Except.bind_eq_error _ _ _ h with h | ⟨_, h⟩
      · exact ⟨v, List.mem_cons_self, hinders_of_literalIn v around room u h⟩
      · rw [Except.map_eq_error_iff] at h
        rcases hinders_of_literalsIn rest around room u h with ⟨w, hw, hinders⟩
        exact ⟨w, List.mem_cons_of_mem v hw, hinders⟩

theorem hinders_of_pairLiteralsIn (entries : List (Value × Value)) (around : List Place)
    (node index room : Nat) (u : Unwritable)
    (h : pairLiteralsIn around node index entries room = .error u) :
    room = 0 ∧ u = .tooDeep ∨
      ∃ e ∈ entries, ∃ left, room = left + 1 ∧ (e.1.Hinders left u ∨ e.2.Hinders left u) := by
  rcases entries with _ | ⟨⟨k, v⟩, rest⟩
  · exact absurd h (by simp only [pairLiteralsIn, reduceCtorEq, not_false_eq_true])
  · cases room with
    | zero => exact .inl ⟨rfl, (Except.error.inj h).symm⟩
    | succ left =>
        rw [pairLiteralsIn] at h
        refine .inr ?_
        rcases Except.bind_eq_error _ _ _ h with h | ⟨_, h⟩
        · -- A pair inside itself is shown by dots instead.
          split at h
          · exact absurd h (by simp only [reduceCtorEq, not_false_eq_true])
          · refine ⟨(k, v), List.mem_cons_self, left, rfl, ?_⟩
            rcases Except.bind_eq_error _ _ _ h with h | ⟨_, h⟩
            · exact .inl (hinders_of_literalIn k _ left u h)
            · rw [Except.map_eq_error_iff] at h
              exact .inr (hinders_of_literalIn v _ left u h)
        · rw [Except.map_eq_error_iff] at h
          rcases hinders_of_pairLiteralsIn rest around node (index + 1) (left + 1) u h with
            ⟨hroom, _⟩ | ⟨e, he, hinders⟩
          · exact absurd hroom (Nat.succ_ne_zero left)
          · exact ⟨e, List.mem_cons_of_mem (k, v) he, hinders⟩

theorem hinders_of_entryLiteralsIn (entries : List (Value × Value)) (around : List Place)
    (room : Nat) (u : Unwritable) (h : entryLiteralsIn around entries room = .error u) :
    ∃ e ∈ entries, e.1.Hinders room u ∨ e.2.Hinders room u := by
  rcases entries with _ | ⟨⟨k, v⟩, rest⟩
  · exact absurd h (by simp only [entryLiteralsIn, reduceCtorEq, not_false_eq_true])
  · rw [entryLiteralsIn] at h
    rcases Except.bind_eq_error _ _ _ h with h | ⟨_, h⟩
    · exact ⟨(k, v), List.mem_cons_self, .inl (hinders_of_literalIn k around room u h)⟩
    · rcases Except.bind_eq_error _ _ _ h with h | ⟨_, h⟩
      · exact ⟨(k, v), List.mem_cons_self, .inr (hinders_of_literalIn v around room u h)⟩
      · rw [Except.map_eq_error_iff] at h
        rcases hinders_of_entryLiteralsIn rest around room u h with ⟨e, he, hinders⟩
        exact ⟨e, List.mem_cons_of_mem (k, v) he, hinders⟩

end

/-- Where a value is not shown by itself, something in it keeps it from it. -/
theorem hinders_of_display (v : Value) (u : Unwritable) (h : v.display = .error u) :
    v.Hinders Json.maxLevels u := by
  unfold display at h
  split at h
  · exact absurd h (by simp only [reduceCtorEq, not_false_eq_true])
  · exact absurd h (by simp only [reduceCtorEq, not_false_eq_true])
  · exact absurd h (by simp only [reduceCtorEq, not_false_eq_true])
  · exact hinders_of_literalIn v [] _ u h

/-- The same of the pairs of a row, which are shown one by one. -/
theorem hinders_of_pairTexts (node : Nat) (entries : List (Value × Value)) (u : Unwritable)
    (h : pairTexts node entries = .error u) : (pairs node entries).Hinders Json.maxLevels u :=
  (hinders_of_pairs node (hinders_of_pairLiteralsIn entries [] node 0 _ u h)).weaken

end Value

/-! ### Keys that come once -/

theorem mem_setKey (entries : List (Value × Value)) (key value : Value) (e : Value × Value)
    (h : e ∈ setKey entries key value) :
    (e.1 = key ∨ ∃ d ∈ entries, e.1 = d.1) ∧ (e.2 = value ∨ ∃ d ∈ entries, e.2 = d.2) := by
  induction entries with
  | nil =>
      rw [setKey, List.mem_singleton] at h
      rw [h]
      exact ⟨.inl rfl, .inl rfl⟩
  | cons first rest ih =>
      rw [setKey] at h
      -- The value takes the place of one under the same key, or goes further down.
      split at h
      · rcases List.mem_cons.mp h with h | h
        · rw [h]
          exact ⟨.inr ⟨first, List.mem_cons_self, rfl⟩, .inl rfl⟩
        · have hmem := List.mem_cons_of_mem first h
          exact ⟨.inr ⟨e, hmem, rfl⟩, .inr ⟨e, hmem, rfl⟩⟩
      · rcases List.mem_cons.mp h with h | h
        · rw [h]
          exact ⟨.inr ⟨first, List.mem_cons_self, rfl⟩, .inr ⟨first, List.mem_cons_self, rfl⟩⟩
        · rcases ih h with ⟨hkey, hvalue⟩
          exact ⟨hkey.imp_right fun ⟨d, hd, heq⟩ => ⟨d, List.mem_cons_of_mem first hd, heq⟩,
            hvalue.imp_right fun ⟨d, hd, heq⟩ => ⟨d, List.mem_cons_of_mem first hd, heq⟩⟩

/-- What all keys and values have in common, they have when each key counts once. -/
theorem forall_mem_distinct (Q : Value → Prop) (entries : List (Value × Value))
    (h : ∀ e ∈ entries, Q e.1 ∧ Q e.2) : ∀ e ∈ distinct entries, Q e.1 ∧ Q e.2 := by
  -- The entries that were taken already have it too.
  have hfold : ∀ (rest done : List (Value × Value)), (∀ e ∈ rest, Q e.1 ∧ Q e.2) →
      (∀ e ∈ done, Q e.1 ∧ Q e.2) →
      ∀ e ∈ rest.foldl (fun done e => setKey done e.1 e.2) done, Q e.1 ∧ Q e.2 := by
    intro rest
    induction rest with
    | nil => exact fun done _ hdone => hdone
    | cons first rest ih =>
        intro done hrest hdone
        rw [List.foldl_cons]
        refine ih _ (fun e he => hrest e (List.mem_cons_of_mem first he)) fun e he => ?_
        rcases mem_setKey done first.1 first.2 e he with ⟨hkey, hvalue⟩
        have hfirst := hrest first List.mem_cons_self
        constructor
        · rcases hkey with hkey | ⟨d, hd, hkey⟩
          · rw [hkey]
            exact hfirst.1
          · rw [hkey]
            exact (hdone d hd).1
        · rcases hvalue with hvalue | ⟨d, hd, hvalue⟩
          · rw [hvalue]
            exact hfirst.2
          · rw [hvalue]
            exact (hdone d hd).2
  exact hfold entries [] h fun _ he => absurd he List.not_mem_nil

/-! ### Rounds -/

/-- The value of a scalar that a cell holds can be shown. -/
def Cell.Showable (c : Cell) : Prop := ∀ v, c = .leaf v → v.Showable

theorem Cell.Showable.outline {c : Cell} (h : c.Showable) (node : Nat) :
    (c.outline node).Showable := by
  cases c with
  | leaf v => exact h v rfl
  | _ => exact .closed _ _

/-- The value of a cell can be shown if those of its parts can. -/
theorem Cell.Showable.value {c : Cell} (h : c.Showable) (node : Nat) (part : Nat → Value)
    (hpart : ∀ id, (part id).Showable) : (c.value node part).Showable := by
  have hparts : ∀ entries : List (Nat × Nat),
      ∀ e ∈ entries.map (fun e => (part e.1, part e.2)), e.1.Showable ∧ e.2.Showable := by
    intro entries e he
    rcases List.mem_map.mp he with ⟨d, _, rfl⟩
    exact ⟨hpart d.1, hpart d.2⟩
  cases c with
  | leaf v => exact h v rfl
  | opened kind => exact .closed _ _
  | sequence items =>
      refine .sequence _ _ fun v hv => ?_
      rcases List.mem_map.mp hv with ⟨id, _, rfl⟩
      exact hpart id
  | pairs entries =>
      exact .pairs _ _ (fun e he => (hparts entries e he).1) fun e he => (hparts entries e he).2
  | set entries =>
      refine .set _ fun v hv => ?_
      rcases List.mem_map.mp hv with ⟨e, he, rfl⟩
      exact (forall_mem_distinct Value.Showable _ (hparts entries) e he).1
  | mapping entries =>
      have hall := forall_mem_distinct Value.Showable _ (hparts entries)
      exact .mapping _ _ (fun e he => (hall e he).1) fun e he => (hall e he).2

/-- After a change at one place an array holds the new entry or what it held before. -/
theorem getD_setIfInBounds {α : Type} (xs : Array α) (i j : Nat) (x d : α) :
    (xs.setIfInBounds i x).getD j d = x ∨ (xs.setIfInBounds i x).getD j d = xs.getD j d := by
  simp only [Array.getD_eq_getD_getElem?, Array.getElem?_setIfInBounds]
  by_cases hij : i = j
  · by_cases hj : j < xs.size
    · exact .inl (by rw [if_pos hij, if_pos (hij ▸ hj), Option.getD_some])
    · refine .inr ?_
      rw [if_pos hij, if_neg (hij ▸ hj), Array.getElem?_eq_none (Nat.not_lt.mp hj)]
  · exact .inr (by rw [if_neg hij])

/-- All values by number can be shown. -/
def AllShowable (values : Array Value) : Prop := ∀ id, (values.getD id .null).Showable

/-- A round makes values that can be shown from others that can. -/
theorem showable_valueRound (cells : Array (Option Cell)) (finished : List Nat)
    (values : Array Value) (hcells : ∀ id c, cells.getD id none = some c → c.Showable)
    (hvalues : AllShowable values) : AllShowable (valueRound cells finished values) := by
  unfold valueRound
  induction finished generalizing values with
  | nil => exact hvalues
  | cons id rest ih =>
      rw [List.foldl_cons]
      refine ih _ ?_
      -- One node gets a new value, made from the values as they stand.
      cases hc : cells.getD id none with
      | none => exact hvalues
      | some c =>
          intro other
          rcases getD_setIfInBounds values id other
            (c.value id fun part => values.getD part .null) .null with h | h
          · rw [h]
            exact (hcells id c hc).value id _ hvalues
          · rw [h]
            exact hvalues other

end Yaml

end SimTerm
