import SimTerm.Proofs.Writing
import SimTerm.Shell

/-!
# Prompts

When a shell has a prompt.

All personas but one show the user and the machine in their prompts, and both
are free-form values that need not have a text. If both can be written there is a
prompt whichever persona is active. Otherwise there is one only as long as the
persona is active that shows neither of them (`exists_prompt_iff`).

## Main definitions

* `ShellSettings.IsWritable`: The user and the machine can be written.

## Theorems

* `Shell.exists_prompt_iff`: When there is a prompt.
* `ShellSettings.isWritable_of_texts`: Texts can be written.
-/

namespace SimTerm

/-- The user and the machine can be written. -/
structure ShellSettings.IsWritable (s : ShellSettings) : Prop where
  /-- The user has a text. -/
  username : s.username.IsWritable
  /-- The machine has a text. -/
  hostname : s.hostname.IsWritable

/-- Whatever a text says, it can be written. -/
theorem ShellSettings.isWritable_of_texts (s : ShellSettings) (user host : String)
    (huser : s.username = .str user) (hhost : s.hostname = .str host) : s.IsWritable :=
  ⟨by rw [huser]; exact Json.isWritable_str user, by rw [hhost]; exact Json.isWritable_str host⟩

namespace Shell

theorem exists_place_iff (sh : Shell) :
    (∃ place, sh.place = .ok place) ↔ sh.settings.IsWritable := by
  have huser := sh.settings.username.exists_display_iff
  have hhost := sh.settings.hostname.exists_display_iff
  rw [place]
  constructor
  · rintro ⟨place, hplace⟩
    rcases hu : sh.settings.username.display with _ | user
    · simp [hu, bind, Except.bind] at hplace
    · rcases hh : sh.settings.hostname.display with _ | host
      · simp [hu, hh, bind, Except.bind] at hplace
      · exact ⟨huser.mp ⟨user, hu⟩, hhost.mp ⟨host, hh⟩⟩
  · intro h
    rcases huser.mpr h.username with ⟨user, hu⟩
    rcases hhost.mpr h.hostname with ⟨host, hh⟩
    rw [hu, hh]
    exact ⟨_, rfl⟩

/-- There is a prompt if the active persona shows no names in it or if both of them
    can be written. -/
theorem exists_prompt_iff (sh : Shell) (path : String) :
    (∃ text, sh.prompt path = .ok text) ↔
      sh.active = .powershell ∨ sh.settings.IsWritable := by
  rw [prompt]
  cases sh.active with
  | powershell => exact iff_of_true ⟨_, rfl⟩ (.inl rfl)
  | _ => simp only [Except.exists_map_eq_ok_iff, exists_place_iff, reduceCtorEq, false_or]

end Shell

end SimTerm
