import SimTerm.Shell

/-!
# Personas Side by Side

What a change of a shell can do to the personas that are not active.

There are two kinds of changes. A definition goes to the profile of the active
persona, and choosing a persona makes another one active. No change is both:
where definitions are made the choice stays, and where a persona is chosen all
four profiles stay. `Separates` says this of one step, with the persona that
the step chooses as a parameter, so that it also says exactly which persona is
active afterwards.

A run of such steps can still reach every profile, as the choice moves on in
between. But it reaches a profile only by a step that is taken while its
persona is active. `profile_of_not_mem_usedAlong` is this for any system that
has a shell somewhere in its state. It needs nothing but the law of one step,
so it serves the shell itself and the sessions around it.

## Main definitions

* `Shell.Operation`: What can be done to a shell.
* `Shell.operate`: The shell after an operation.
* `Shell.Separates`: A step makes definitions or chooses a persona.
* `Shell.usedAlong`: The personas that were active when steps were taken.

## Theorems

* `separates_modify`, `separates_switch`: The two kinds of changes.
* `separates_operate`: Every operation is such a step.
* `profile_of_not_mem_usedAlong`: A run leaves the other profiles alone.
-/

namespace SimTerm

namespace Shell

/-- What can be done to a shell. -/
inductive Operation where
  /-- A configuration is read. -/
  | load (text : String)
  /-- An alias is defined. -/
  | setAlias (name value : String)
  /-- A variable is set. -/
  | setVariable (name value : String)
  /-- A persona is chosen by name. -/
  | switch (name : String)

/-- The persona that an operation chooses. -/
def Operation.chosen? : Operation → Option Persona
  | .switch name => Persona.ofName? name
  | _ => none

/-- The shell after an operation. -/
def operate (sh : Shell) : Operation → Shell
  | .load text => (sh.load text).value.2
  | .setAlias name value => sh.setAlias name value
  | .setVariable name value => sh.setVariable name value
  | .switch name => (sh.switch name).value.2

/-- A step that chooses a persona, or none, keeps the personas apart. -/
structure Separates (chosen : Option Persona) (before after : Shell) : Prop where
  /-- The chosen persona is active, and without one the same as before. -/
  active : after.active = chosen.getD before.active
  /-- Only the profile of the persona that was active may be another one. -/
  others : ∀ who, who ≠ before.active → after.profiles.get who = before.profiles.get who
  /-- If a persona was chosen, all profiles are as before. -/
  choosing : ∀ who, chosen = some who → after.profiles = before.profiles

/-! ### One step -/

theorem separates_refl (sh : Shell) : Separates none sh sh where
  active := rfl
  others _ _ := rfl
  choosing _ _ := rfl

/-- Steps that choose no persona make one such step together. -/
theorem Separates.trans {sh sh' sh'' : Shell} (h : Separates none sh sh')
    (h' : Separates none sh' sh'') : Separates none sh sh'' where
  active := h'.active.trans h.active
  others who hwho := by
    -- The same persona is active for the second step.
    have hwho' : who ≠ sh'.active := by
      rw [h.active]
      exact hwho
    rw [h'.others who hwho', h.others who hwho]
  choosing who hwho := absurd hwho (by simp only [reduceCtorEq, not_false_eq_true])

/-- Definitions stay with the active persona. -/
theorem separates_modify (sh : Shell) (f : Profile → Profile) : Separates none sh (sh.modify f) where
  active := rfl
  others who hwho := by rw [modify, Profiles.get_set_of_ne _ _ hwho]
  choosing who hwho := absurd hwho (by simp only [reduceCtorEq, not_false_eq_true])

theorem separates_setVariables (assignments : List (String × String)) (sh : Shell) :
    Separates none sh (assignments.foldl (fun sh a => sh.setVariable a.1 a.2) sh) := by
  induction assignments generalizing sh with
  | nil => exact separates_refl sh
  | cons a rest ih =>
      rw [List.foldl_cons]
      exact (separates_modify sh _).trans (ih _)

/-- The choice of a persona touches no profile, and a name that is not known
    touches nothing. -/
theorem separates_switch (sh : Shell) (name : String) :
    Separates (Persona.ofName? name) sh (sh.switch name).value.2 := by
  unfold switch switch?
  cases hname : Persona.ofName? name with
  | none => exact separates_refl sh
  | some who => exact ⟨rfl, fun _ _ => rfl, fun _ _ => rfl⟩

/-- Every operation keeps the personas apart. -/
theorem separates_operate (sh : Shell) (op : Operation) :
    Separates op.chosen? sh (sh.operate op) := by
  cases op with
  | load text => exact separates_modify sh (fun p => (RcLine.ofLines text).foldl Profile.apply p)
  | setAlias name value =>
      exact separates_modify sh (fun p => { p with aliases := Fields.set p.aliases name value })
  | setVariable name value => exact separates_setVariables [(name, value)] sh
  | switch name => exact separates_switch sh name

/-! ### Runs -/

section Runs

variable {σ τ : Type} (shell : σ → Shell) (step : σ → τ → σ)

/-- The personas that were active when the steps of a run were taken. -/
def usedAlong (s : σ) : List τ → List Persona
  | [] => []
  | t :: rest => (shell s).active :: usedAlong (step s t) rest

/-- If every step keeps the personas apart, a persona that was active for none
    of them has the profile from before. -/
theorem profile_of_not_mem_usedAlong (chosen : σ → τ → Option Persona)
    (hstep : ∀ s t, Separates (chosen s t) (shell s) (shell (step s t))) (steps : List τ) (s : σ)
    (who : Persona) (h : who ∉ usedAlong shell step s steps) :
    (shell (steps.foldl step s)).profiles.get who = (shell s).profiles.get who := by
  induction steps generalizing s with
  | nil => rfl
  | cons t rest ih =>
      rw [usedAlong, List.mem_cons, not_or] at h
      rw [List.foldl_cons, ih (step s t) h.2, (hstep s t).others who h.1]

end Runs

end Shell

end SimTerm
