import SimTerm.Yaml.Problem

/-!
# Steps that Keep an Invariant

A rule for each way in which steps of reading a document are put together.

Nodes are composed and values are assembled by steps that carry a state along
and may end early with a fault. Of both it has to be known that they can only
end with certain faults, and that depends on something that all of their states
have in common. `Keeps` says the three things that go together: a step that
starts in such a state ends in such a state, with a result of some kind, or
with a fault of some kind.

The rules follow the forms of `do` blocks: a result, a step after a step, a
choice, reading and changing the state, and a loop over a list. A loop carries
a value along, and the rule asks for an invariant of that value.

## Main definitions

* `Keeps`: A step keeps an invariant.

## Theorems

* `run_bind`, `run_get`, `run_set`: A step after one that is known.
* `Keeps.pure`, `Keeps.bind`, `Keeps.ite`: Results, sequences and choices.
* `Keeps.get`, `Keeps.set`, `Keeps.modify`: The state.
* `Keeps.forIn`, `Keeps.forM`: Loops over lists.
-/

namespace SimTerm

namespace Yaml

variable {σ α β : Type}

/-- What comes after a step starts in the state that the step ends in. -/
theorem run_bind {m : StateT σ (Except Fault) α} {k : α → StateT σ (Except Fault) β} {s s' : σ}
    {a : α} (h : m s = .ok (a, s')) : (m >>= k) s = k a s' := by
  simp only [Bind.bind, StateT.bind, Except.bind, h]

theorem run_get (k : σ → StateT σ (Except Fault) β) (s : σ) : (get >>= k) s = k s s := rfl

theorem run_set (k : PUnit → StateT σ (Except Fault) β) (s s' : σ) :
    (set s' >>= k) s = k ⟨⟩ s' := rfl

/-- From a state that `P` holds of, a step ends in such a state with a result
    that `Q` holds of, or else with a fault that `E` holds of. -/
def Keeps (P : σ → Prop) (E : Fault → Prop) (m : StateT σ (Except Fault) α) (Q : α → Prop) :
    Prop :=
  ∀ s, P s → match m s with
    | .ok (a, s') => P s' ∧ Q a
    | .error f => E f

namespace Keeps

variable {P : σ → Prop} {E : Fault → Prop} {m : StateT σ (Except Fault) α} {Q R : α → Prop}

/-- What a step that keeps an invariant comes to in a state with it. -/
protected theorem cases (h : Keeps P E m Q) (s : σ) (hs : P s) :
    (∃ a s', m s = .ok (a, s') ∧ P s' ∧ Q a) ∨ ∃ f, m s = .error f ∧ E f := by
  have hm := h s hs
  rcases heq : m s with f | ⟨a, s'⟩
  · rw [heq] at hm
    exact .inr ⟨f, rfl, hm⟩
  · rw [heq] at hm
    exact .inl ⟨a, s', rfl, hm⟩

protected theorem mono (h : Keeps P E m R) (himp : ∀ a, R a → Q a) : Keeps P E m Q := by
  intro s hs
  rcases h.cases s hs with ⟨a, s', heq, hs', ha⟩ | ⟨f, heq, hf⟩
  · rw [heq]
    exact ⟨hs', himp a ha⟩
  · rw [heq]
    exact hf

protected theorem pure {a : α} (ha : Q a) : Keeps P E (pure a) Q := fun _ hs => ⟨hs, ha⟩

/-- A step after another step may rely on what holds of the first one's result. -/
protected theorem bind {k : α → StateT σ (Except Fault) β} {S : β → Prop} (h : Keeps P E m R)
    (hk : ∀ a, R a → Keeps P E (k a) S) : Keeps P E (m >>= k) S := by
  intro s hs
  rcases h.cases s hs with ⟨a, s', heq, hs', ha⟩ | ⟨f, heq, hf⟩
  · have hrest := hk a ha s' hs'
    simp only [Bind.bind, StateT.bind, Except.bind, heq]
    exact hrest
  · simp only [Bind.bind, StateT.bind, Except.bind, heq]
    exact hf

protected theorem ite {c : Prop} [Decidable c] {t e : StateT σ (Except Fault) α}
    (ht : c → Keeps P E t Q) (he : ¬ c → Keeps P E e Q) : Keeps P E (if c then t else e) Q := by
  by_cases hc : c
  · rw [if_pos hc]
    exact ht hc
  · rw [if_neg hc]
    exact he hc

protected theorem get : Keeps P E (get : StateT σ (Except Fault) σ) P := fun _ hs => ⟨hs, hs⟩

protected theorem set {s : σ} (hs : P s) :
    Keeps P E (set s : StateT σ (Except Fault) PUnit) (fun _ => True) :=
  fun _ _ => ⟨hs, trivial⟩

protected theorem modify {f : σ → σ} (hf : ∀ s, P s → P (f s)) :
    Keeps P E (modify f : StateT σ (Except Fault) PUnit) (fun _ => True) :=
  fun s hs => ⟨hf s hs, trivial⟩

/-- A loop over a list keeps the invariant if its body does. `S` is what holds
    of the value that the loop carries along. -/
protected theorem forIn {xs : List α} {init : β}
    {body : α → β → StateT σ (Except Fault) (ForInStep β)}
    {S : β → Prop} (hinit : S init)
    (hbody : ∀ x ∈ xs, ∀ b, S b → Keeps P E (body x b) (fun step => S step.value)) :
    Keeps P E (forIn xs init body) S := by
  induction xs generalizing init with
  | nil =>
      rw [List.forIn_nil]
      exact .pure hinit
  | cons x rest ih =>
      rw [List.forIn_cons]
      refine .bind (hbody x List.mem_cons_self init hinit) fun step hstep => ?_
      cases step with
      | done b => exact .pure hstep
      | yield b => exact ih hstep fun y hy => hbody y (List.mem_cons_of_mem x hy)

protected theorem forM {xs : List α} {body : α → StateT σ (Except Fault) PUnit}
    (hbody : ∀ x ∈ xs, Keeps P E (body x) (fun _ => True)) :
    Keeps P E (xs.forM body) (fun _ => True) := by
  induction xs with
  | nil => exact .pure trivial
  | cons x rest ih =>
      refine .bind (hbody x List.mem_cons_self) fun _ _ => ih fun y hy => ?_
      exact hbody y (List.mem_cons_of_mem x hy)

end Keeps

end Yaml

end SimTerm
