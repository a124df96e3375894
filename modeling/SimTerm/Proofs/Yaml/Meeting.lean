import Mathlib.Data.List.TakeWhile
import SimTerm.Proofs.Yaml.Steps
import SimTerm.Yaml.Document

/-!
# Meeting the Nodes of a Document

What the assembly does with mappings that have texts for keys.

The steps of the assembly are followed one by one here, each from one state to
the next. A scalar that converts is met in one step, which leaves its value at
its node, and so is a collection, which waits to be filled. A mapping whose keys
are texts takes nothing in from others, as neither merge keys nor value keys are
texts. So filling it is meeting its keys and values in their order (`MeetsAll`).

## Main definitions

* `MeetsAll`: The keys and values of some entries are met.

## Theorems

* `meet_opens`, `meet_text`, `meet_int`: What is met for the first time.
* `mergeInto_of_texts`: A mapping with texts for keys takes nothing in.
* `fill_of_texts`: Such a mapping is filled with its own entries.
* `fillAll_one`: A round that fills one collection.
-/

namespace SimTerm

namespace Yaml

open Assemble

variable {s : Assembly} {id : Nat}

theorem run_node {α : Type} (k : Node → Assemble α) (id : Nat) (s : Assembly) :
    (node id >>= k) s = k (s.nodes.getD id default) s := rfl

/-! ### Single nodes -/

theorem meet_opens {kind : Collection} (hcell : s.cells.getD id none = none)
    (htag : Collection.ofTag? (s.nodes.getD id default).tag = some kind) :
    meet id s = .ok ((), { s with
      cells := s.cells.setIfInBounds id (some (.opened kind)), waiting := id :: s.waiting }) := by
  unfold meet
  rw [run_get, hcell]
  change (node id >>= fun n => _ : Assemble Unit) s = _
  rw [run_node, htag]
  rfl

theorem meet_scalar {n : Node} {text : String} {v : Value} (hcell : s.cells.getD id none = none)
    (hnode : s.nodes.getD id default = n) (hcontent : n.content = .scalar text)
    (htag : n.tag ∈ scalarTags) (hconvert : convertScalar id n text = pure v) :
    meet id s = .ok ((), { s with cells := s.cells.setIfInBounds id (some (.leaf v)) }) := by
  have hkind : ∀ tag ∈ scalarTags, Collection.ofTag? tag = none := by decide
  have htext : scalarText maxSteps id s = .ok (text, s) := by
    rw [maxSteps, scalarText, run_node, hnode, hcontent]
    rfl
  unfold meet
  rw [run_get, hcell]
  change (node id >>= fun n => _ : Assemble Unit) s = _
  rw [run_node, hnode, hkind n.tag htag]
  change (if scalarTags.contains n.tag then _ else _ : Assemble Unit) s = _
  rw [if_pos (List.contains_iff_mem.mpr htag), run_bind htext, hconvert]
  rfl

theorem meet_text {text : String} {m : Mark} (hcell : s.cells.getD id none = none)
    (hnode : s.nodes.getD id default = ⟨standardTag "str", .scalar text, m⟩) :
    meet id s =
      .ok ((), { s with cells := s.cells.setIfInBounds id (some (.leaf (.text text))) }) := by
  refine meet_scalar hcell hnode rfl (show standardTag "str" ∈ scalarTags by decide) ?_
  simp [convertScalar, standardTag]

theorem meet_int {text : String} {m : Mark} {i : Int} (hcell : s.cells.getD id none = none)
    (hnode : s.nodes.getD id default = ⟨standardTag "int", .scalar text, m⟩)
    (hi : wholeNumber text = .ok i) :
    meet id s =
      .ok ((), { s with cells := s.cells.setIfInBounds id (some (.leaf (.int i))) }) := by
  refine meet_scalar hcell hnode rfl (show standardTag "int" ∈ scalarTags by decide) ?_
  simp [convertScalar, standardTag, hi, ofConversion]

/-! ### Mappings -/

/-- A loop whose body changes nothing changes nothing. -/
theorem forIn_yield {α : Type} {xs : List α} {body : α → PUnit → Assemble (ForInStep PUnit)}
    (h : ∀ x ∈ xs, body x ⟨⟩ s = .ok (.yield ⟨⟩, s)) : (forIn xs ⟨⟩ body) s = .ok (⟨⟩, s) := by
  induction xs with
  | nil => rfl
  | cons x xs ih =>
      rw [List.forIn_cons, run_bind (h x List.mem_cons_self)]
      exact ih fun y hy => h y (List.mem_cons_of_mem x hy)

theorem mergeInto_of_texts {steps : Nat} {all : List (Nat × Nat)}
    (hall : entries id s = .ok (all, s))
    (htexts : ∀ e ∈ all, (s.nodes.getD e.1 default).tag = standardTag "str") :
    mergeInto (steps + 1) id s = .ok ((), s) := by
  have hfinish : finishMerge id [] s = .ok ((), s) := by
    rw [finishMerge, run_bind hall, run_bind (forIn_yield fun e he => ?_)]
    · rfl
    · rw [run_node, htexts e he, if_neg (by decide)]
      rfl
  have hown :
      all.dropWhile (fun e => (s.nodes.getD e.1 default).tag != standardTag "merge") = [] := by
    refine List.dropWhile_eq_nil_iff.mpr fun e he => ?_
    rw [htexts e he]
    decide
  have hrounds : ∀ rounds, mergeRounds (mergeInto steps) id rounds [] s = .ok ((), s) := by
    intro rounds
    cases rounds with
    | zero => exact hfinish
    | succ rounds =>
        rw [mergeRounds, run_bind hall, run_get, hown]
        exact hfinish
  rw [mergeInto, run_bind hall]
  exact hrounds _

/-- The keys and values of some entries are met one after the other, and every key is a
    scalar. -/
inductive MeetsAll : Assembly → List (Nat × Nat) → Assembly → Prop where
  | nil (s : Assembly) : MeetsAll s [] s
  | cons {s s₁ s₂ s₃ : Assembly} {key value : Nat} {v : Value} {rest : List (Nat × Nat)}
      (hkey : meet key s = .ok ((), s₁)) (hleaf : s₁.cells.getD key none = some (.leaf v))
      (hvalue : meet value s₁ = .ok ((), s₂)) (hrest : MeetsAll s₂ rest s₃) :
      MeetsAll s ((key, value) :: rest) s₃

theorem meetEntries_of_texts {s' : Assembly} {all : List (Nat × Nat)}
    (hall : (s.nodes.getD id default).content = .mapping all)
    (htexts : ∀ e ∈ all, (s.nodes.getD e.1 default).tag = standardTag "str")
    (h : MeetsAll s all s') : meetEntries id s = .ok (all, s') := by
  have hentries : entries id s = .ok (all, s) := by
    change Except.ok ((s.nodes.getD id default).content.entries, s) = _
    rw [hall]
    rfl
  unfold meetEntries
  rw [run_node, hall]
  change (mergeInto maxSteps id >>= fun _ => _ : Assemble _) s = _
  rw [maxSteps, run_bind (mergeInto_of_texts hentries htexts), run_bind hentries]
  refine run_bind (a := ⟨⟩) ?_
  -- The loop is the same wherever the mapping is.
  generalize (s.nodes.getD id default).mark = mark
  clear hall htexts hentries
  induction h with
  | nil => rfl
  | cons hkey hleaf hvalue _ ih =>
      rw [List.forIn_cons]
      refine (run_bind (a := ForInStep.yield ⟨⟩) ?_).trans ih
      dsimp only
      rw [run_bind hkey, run_get, hleaf]
      exact run_bind hvalue

theorem fill_of_texts {s' : Assembly} {all : List (Nat × Nat)}
    (hall : (s.nodes.getD id default).content = .mapping all)
    (htexts : ∀ e ∈ all, (s.nodes.getD e.1 default).tag = standardTag "str")
    (h : MeetsAll s all s') :
    fill id .mapping s =
      .ok ((), { s' with cells := s'.cells.setIfInBounds id (some (.mapping all)) }) :=
  run_bind (meetEntries_of_texts hall htexts h)

/-! ### Rounds -/

theorem fillAll_done (hwaiting : s.waiting = []) (fuel : Nat) : fillAll fuel s = .ok ((), s) := by
  cases fuel with
  | zero => rfl
  | succ fuel =>
      rw [fillAll, run_get, hwaiting]
      rfl

theorem fillAll_one {kind : Collection} {s' : Assembly} {fuel : Nat} (hwaiting : s.waiting = [id])
    (hcell : s.cells.getD id none = some (.opened kind))
    (hfill : fill id kind { s with waiting := [] } = .ok ((), s')) :
    fillAll (fuel + 1) s = fillAll fuel s' := by
  rw [fillAll, run_get, hwaiting]
  change (forIn [id] PUnit.unit _ >>= fun _ => fillAll fuel : Assemble Unit)
    { s with waiting := [] } = _
  refine run_bind (a := ⟨⟩) ?_
  rw [List.forIn_cons]
  refine run_bind (a := ForInStep.yield PUnit.unit) ?_
  rw [run_get]
  dsimp only
  rw [hcell]
  exact run_bind hfill

end Yaml

end SimTerm
