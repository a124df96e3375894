import Mathlib.Data.List.Induction
import SimTerm.Proofs.Config.Replacement

/-!
# Runs of a Store

Which configurations are in force after a run of requests, and what a failed
replacement leaves behind there.

A replacement that fails and is not undone spoils the configuration: it cannot
be validated any more. It stays so until some request succeeds, as whatever
succeeds has been validated, be it a value that is loaded anew, a reset, or a
replacement that puts right what was wrong. So the configuration in force is
valid exactly when each replacement that spoilt it was followed by a request that
succeeded (`Mended`). What one request does to that is `valid_answer`, and a run
is one request after another (`valid_run`).

Keys are those of settings and of what their values have by themselves. What the
program keeps for its own use, under names that start with two low lines, has no
place in a configuration.

## Main definitions

* `PublicKey`: A key with no such name in it.
* `Request`, `attempt`, `run`: What can be asked of a store, once and in a row.
* `Succeeds`, `Spoils`: A request is fulfilled, or fails and is not undone.
* `Mended`: What was spoilt in a run was put right.

## Theorems

* `valid_answer`: What one request does to a valid configuration.
* `mended_append`: What one more request does to a run.
* `valid_run`: After which runs the configuration in force is valid.
* `failed_set_restores_iff`: When a failed replacement leaves all as it was.
* `failed_set_stays`: One that does not.
-/

namespace SimTerm

namespace ConfigStore

/-- A key of settings: none of its names is one of the program's own. -/
structure PublicKey where
  /-- The key. -/
  text : String
  /-- None of its names starts with two low lines. -/
  isPublic : ∀ part ∈ keyParts text, ['_', '_'].isPrefixOf part.toList = false

/-- What can be asked of a store. -/
inductive Request where
  /-- Loads the configuration that a value gives. -/
  | load (data : Json)
  /-- Replaces the value under a key. -/
  | set (key : PublicKey) (v : Json)
  /-- Drops the loaded configuration. -/
  | reset

/-- What a request gives: nothing or a fault, and the store after it. -/
def attempt (s : ConfigStore) : Request → Except ConfigFault Unit × ConfigStore
  | .load data => s.loadJson data
  | .set key v => s.set key.text v
  | .reset => (.ok (), s.reset)

/-- The store after a request, whether it failed or not. -/
def answer (s : ConfigStore) (r : Request) : ConfigStore := (s.attempt r).2

/-- The store after some requests. -/
def run (s : ConfigStore) (requests : List Request) : ConfigStore := requests.foldl answer s

/-- A request is fulfilled. -/
def Succeeds (s : ConfigStore) (r : Request) : Prop := (s.attempt r).1 = .ok ()

/-- A replacement fails and is not undone. -/
def Spoils (s : ConfigStore) (r : Request) : Prop :=
  ∃ key v f, r = .set key v ∧ (s.attempt r).1 = .error f ∧ ¬ f.IsUndone

/-- What was spoilt in a run was put right by a later request. -/
def Mended (requests : List Request) : Prop :=
  ∀ before r after, requests = before ++ r :: after → (run {} before).Spoils r →
    ∃ between m rest, after = between ++ m :: rest ∧
      (run {} (before ++ r :: between)).Succeeds m

theorem not_spoils_of_succeeds (s : ConfigStore) (r : Request) (h : s.Succeeds r) :
    ¬ s.Spoils r := by
  rintro ⟨_, _, f, _, hf, _⟩
  exact absurd (h.symm.trans hf) (by simp only [reduceCtorEq, not_false_eq_true])

/-- What one request does: the configuration is valid afterwards when the request
    succeeded, or when it was valid and the request did not spoil it. -/
theorem valid_answer (s : ConfigStore) (r : Request) :
    (s.answer r).inForce.validate = .ok () ↔
      s.Succeeds r ∨ (s.inForce.validate = .ok () ∧ ¬ s.Spoils r) := by
  cases r with
  | load data =>
      have hkeeps : ¬ s.Spoils (.load data) := by
        rintro ⟨_, _, _, hset, _⟩
        exact absurd hset (by simp only [reduceCtorEq, not_false_eq_true])
      simp only [answer, Succeeds, attempt, loadJson, hkeeps, not_false_eq_true, and_true]
      cases hdata : Config.ofJson data with
      | error e => simp only [reduceCtorEq, false_or]
      | ok c =>
          have hc : c.validate = .ok () := (Config.ofJson_ok data c hdata).2
          exact iff_of_true hc (.inl rfl)
  | reset =>
      have hstart : (s.answer .reset).inForce.validate = .ok () := rfl
      exact iff_of_true hstart (.inl rfl)
  | set key v =>
      rcases hset : s.set key.text v with ⟨result, s'⟩
      have hattempt : s.attempt (.set key v) = (result, s') := hset
      rw [answer, Succeeds, Spoils, hattempt]
      cases result with
      | ok =>
          exact iff_of_true (set_ok s s' key.text v hset).2 (.inl rfl)
      | error f =>
          rcases set_error s s' key.text v f hset with ⟨hundone, hsame⟩ | ⟨hnot, _, hfailed⟩
          · have hkeeps : ¬ ∃ key' v' f', Request.set key v = .set key' v' ∧
                (Except.error f : Except ConfigFault Unit) = .error f' ∧ ¬ f'.IsUndone := by
              rintro ⟨_, _, _, _, hf, hnot⟩
              rw [Except.error.inj hf] at hundone
              exact hnot hundone
            rw [hsame, and_iff_left hkeeps]
            exact ⟨.inr, fun h => h.resolve_left (by simp only [reduceCtorEq, not_false_eq_true])⟩
          · have hspoils : ∃ key' v' f', Request.set key v = .set key' v' ∧
                (Except.error f : Except ConfigFault Unit) = .error f' ∧ ¬ f'.IsUndone :=
              ⟨key, v, f, rfl, rfl, hnot⟩
            simp only [hfailed, hspoils, reduceCtorEq, not_true_eq_false, and_false, or_self]

theorem run_append (s : ConfigStore) (requests : List Request) (r : Request) :
    s.run (requests ++ [r]) = (s.run requests).answer r := by
  rw [run, List.foldl_append, List.foldl_cons, List.foldl_nil, ← run]

theorem mended_append (requests : List Request) (r : Request) :
    Mended (requests ++ [r]) ↔
      (run {} requests).Succeeds r ∨ (Mended requests ∧ ¬ (run {} requests).Spoils r) := by
  constructor
  · intro h
    by_cases hr : (run {} requests).Succeeds r
    · exact .inl hr
    · refine .inr ⟨fun before broken after hrun hspoils => ?_, fun hspoils => ?_⟩
      · rcases h before broken (after ++ [r]) (by simp [hrun]) hspoils with
          ⟨between, m, rest, hafter, hm⟩
        rcases List.eq_nil_or_concat rest with rfl | ⟨rest, last, rfl⟩
        · -- The last request is not the one that helped, as it failed.
          rcases List.append_inj' hafter rfl with ⟨rfl, hlast⟩
          rw [← hrun, ← List.singleton_inj.mp hlast] at hm
          exact absurd hm hr
        · rw [List.concat_eq_append, ← List.cons_append, ← List.append_assoc] at hafter
          exact ⟨between, m, rest, (List.append_inj' hafter rfl).1, hm⟩
      · rcases h requests r [] rfl hspoils with ⟨between, m, rest, hafter, _⟩
        exact absurd hafter (by simp)
  · intro h before broken after hrun hspoils
    rcases List.eq_nil_or_concat after with rfl | ⟨after, last, rfl⟩
    · -- The last request spoilt something, so it is none that helps.
      rcases List.append_inj' hrun rfl with ⟨rfl, hlast⟩
      rw [← List.singleton_inj.mp hlast] at hspoils
      rcases h with hsucceeds | ⟨_, hkeeps⟩
      · exact absurd hspoils (not_spoils_of_succeeds _ r hsucceeds)
      · exact absurd hspoils hkeeps
    · rw [List.concat_eq_append] at hrun ⊢
      rw [← List.cons_append, ← List.append_assoc] at hrun
      rcases List.append_inj' hrun rfl with ⟨hbefore, hlast⟩
      rw [List.singleton_inj.mp hlast] at h
      rcases h with hsucceeds | ⟨hmended, _⟩
      · rw [hbefore] at hsucceeds
        exact ⟨after, last, [], rfl, hsucceeds⟩
      · rcases hmended before broken after hbefore hspoils with ⟨between, m, rest, rfl, hm⟩
        exact ⟨between, m, rest ++ [last], by rw [List.append_assoc, List.cons_append], hm⟩

/-- The configuration in force after a run is valid exactly when what was spoilt
    in the run was put right. -/
theorem valid_run (requests : List Request) :
    (run {} requests).inForce.validate = .ok () ↔ Mended requests := by
  induction requests using List.reverseRecOn with
  | nil =>
      have hstart : (run {} []).inForce.validate = .ok () := rfl
      refine iff_of_true hstart fun before r after hrun => ?_
      exact absurd hrun (by simp)
  | append_singleton requests r ih =>
      rw [run_append, valid_answer, mended_append, ih]

/-- A replacement that fails after a run leaves what is exported as it was
    exactly when it was undone or gave the value that was there. The configuration
    in force after a run is valid exactly when what was spoilt was put right, and
    after such a run a failed replacement is undone exactly when its key names
    neither a section that validation looks into nor a field that it looks at and
    whose value cannot be written. -/
theorem failed_set_restores_iff (requests : List Request) :
    ((run {} requests).inForce.validate = .ok () ↔ Mended requests) ∧
      ∀ (key : PublicKey) v f s', (run {} requests).set key.text v = (.error f, s') →
        (s'.inForce.toJson = (run {} requests).inForce.toJson ↔
          f.IsUndone ∨ (run {} requests).inForce.lookup? (keyParts key.text) = some (.value v)) ∧
        (Mended requests →
          (f.IsUndone ↔
            key.text ∉ checkedSections ∧ (key.text ∈ checkedFields → v.IsWritable))) := by
  have hrun := valid_run requests
  refine ⟨hrun, fun key v f s' hset => ⟨?_, fun hmended => ?_⟩⟩
  · rcases set_error _ s' key.text v f hset with ⟨hundone, hsame⟩ | ⟨hnot, hreplace, _⟩
    · simp only [hsame, hundone, true_or]
    · rw [Config.toJson_replaceAt? _ _ _ v hreplace, or_iff_right hnot]
  · exact set_undone_iff _ s' (hrun.mpr hmended) key.text v f hset

/-- A plain value in the place of the session section is not accepted, and yet it
    is there afterwards. -/
theorem failed_set_stays :
    ∃ s', ({} : ConfigStore).set "session" (.int 5) = (.error .noSection, s') ∧
      s'.inForce.toJson ≠ ({} : ConfigStore).inForce.toJson ∧
      s'.inForce.validate = .error .noSection := by
  refine ⟨⟨some { session := .replaced (.int 5) }⟩, rfl, ?_, rfl⟩
  intro h
  exact absurd h (by simp [inForce, Config.toJson, Config.sections, Section.toJson])

end ConfigStore

end SimTerm
