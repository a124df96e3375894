import SimTerm.Config.Store
import SimTerm.Proofs.Fields
import SimTerm.Proofs.Writing

/-!
# Replacing Settings

What one replacement of a setting does to a configuration.

A replacement is made first and looked at afterwards. Validation goes through
six fields, and the first one that fails ends it. There are two ways to fail. A
value that is not allowed is refused, and then the replacement is undone. But
the refusal shows the value, and where that cannot be written, or where a plain
value stands in the place of the section, validation cannot say what is wrong,
and then the replacement stays.

So all depends on the field that failed. In a configuration that was valid
before, that can only be the one that was replaced, or one of the section that
was taken out (`run_replaceAt?`). A key that names neither a section that is
looked into (`checkedSections`) nor a field that is looked at (`checkedFields`)
does no harm.

The two shapes of a replacement, a whole section and a field, are told apart in
`replaceAt?_cases` and nowhere else. Afterwards there are only two laws of what
is found at a place (`fieldAt?_replaceSection?`, `fieldAt?_fieldSet`).

## Main definitions

* `checkedSections`, `checkedFields`: The keys of what validation looks at.
* `ConfigFault.IsUndone`: The faults that leave all as it was.
* `Config.HasSections`: The sections that validation looks into are there.
* `Config.FieldSet`: What another value in a field comes to.

## Theorems

* `Check.fault_refused_iff`: Which values are refused.
* `validate_eq_ok_iff`: Which configurations are valid.
* `validate_eq_error`: What it means that one is not.
* `lineCaps_of_validate`, `keptCaps_of_validate`: A valid one has all its caps.
* `ofJson_ok`: What is accepted has all its sections and is valid.
* `replaceAt?_cases`: What a replacement comes to before validation.
* `toJson_replaceAt?`: A replacement shows, except for an equal value.
* `run_replaceAt?`: Which field fails after a replacement in a valid configuration.
* `loadJson_ok`: What a store holds after it has loaded a value.
* `set_error`: A replacement that fails is undone, or it is there afterwards.
* `set_ok`: A replacement that is made leaves a valid configuration.
* `set_undone_iff`: Which failures in a valid configuration are undone.
-/

namespace SimTerm

/-- The names of the sections that validation looks into. -/
def checkedSections : List String := ["session", "shell", "logging"]

/-- The keys of the fields that validation looks at. -/
def checkedFields : List String := Check.all.map Check.key

/-- A fault that leaves a configuration as it was. -/
def ConfigFault.IsUndone (f : ConfigFault) : Prop := (∃ e, f = .refused e) ∨ f = .readOnly

/-- A key is its parts with the dots between them. -/
theorem intercalate_keyParts (key : String) :
    ['.'].intercalate ((keyParts key).map String.toList) = key.toList := by
  have hparts : (keyParts key).map String.toList = key.toList.splitOn '.' := by
    simp [keyParts, Function.comp_def]
  rw [hparts, List.intercalate_splitOn]

theorem keyParts_singleton (key part : String) (h : keyParts key = [part]) : key = part := by
  have hjoin := intercalate_keyParts key
  rw [h] at hjoin
  exact String.toList_injective (by simpa using hjoin.symm)

theorem keyParts_pair (key part name : String) (h : keyParts key = [part, name]) :
    key = part ++ "." ++ name := by
  have hjoin := intercalate_keyParts key
  rw [h] at hjoin
  exact String.toList_injective (by simpa using hjoin.symm)

theorem Section.get?_eq_some {α : Type} (s : Section α) (a : α) (h : s.get? = some a) :
    s = .settings a := by
  cases s with
  | settings b => rw [Option.some.inj h]
  | replaced v => exact absurd h (by simp only [Section.get?, reduceCtorEq, not_false_eq_true])

/-- A value that is stored leaves the fields as they are if it was there before. -/
theorem Fields.set_eq_self_iff {α : Type} (fields : List (String × α)) (name : String)
    (value old : α) (h : Fields.get? fields name = some old) :
    Fields.set fields name value = fields ↔ old = value := by
  induction fields with
  | nil => exact absurd h (by simp only [Fields.get?, List.find?_nil, Option.map_none,
      reduceCtorEq, not_false_eq_true])
  | cons f rest ih =>
      rw [Fields.get?_cons] at h
      rw [Fields.set]
      by_cases hname : f.1 = name
      · rw [if_pos hname, Option.some.injEq] at h
        rw [if_pos (by rw [hname, beq_self_eq_true]), List.cons.injEq, and_iff_left rfl, ← h,
          ← hname]
        exact ⟨fun hf => (congrArg Prod.snd hf).symm, fun hf => by rw [← hf]⟩
      · rw [if_neg hname] at h
        rw [if_neg (by rw [beq_iff_eq]; exact hname), List.cons.injEq, and_iff_right rfl, ih h]

/-! ### Checks -/

namespace Check

/-- Another value is refused if it can be written. -/
theorem fault_refused_iff (k : Check) (v : Json) :
    (∃ e, k.fault v = .refused e) ↔ v.IsWritable := by
  rw [← v.exists_literal_iff, fault]
  cases v.literal with
  | ok text => exact iff_of_true ⟨_, rfl⟩ ⟨text, rfl⟩
  | error u => simp only [reduceCtorEq, exists_false]

theorem fault_ne_readOnly (k : Check) (v : Json) : k.fault v ≠ .readOnly := by
  rw [fault]
  cases v.literal <;> simp only [refuse, ne_eq, reduceCtorEq, not_false_eq_true]

theorem run_eq_ok_iff (k : Check) (c : Config) :
    k.run c = .ok () ↔ ∃ v, c.fieldAt? k.part k.name = some v ∧ k.allows v = true := by
  rw [run]
  cases c.fieldAt? k.part k.name with
  | none => simp only [reduceCtorEq, false_and, exists_false]
  | some v =>
      by_cases hv : k.allows v = true
      · simp [hv]
      · simp [hv]

/-- A check fails for want of its section or on the value of its field. -/
theorem run_eq_error (k : Check) (c : Config) (f : ConfigFault) (h : k.run c = .error f) :
    (c.fieldAt? k.part k.name = none ∧ f = .noSection) ∨
      ∃ v, c.fieldAt? k.part k.name = some v ∧ f = k.fault v := by
  rw [run] at h
  split at h
  next hnone => exact .inl ⟨hnone, (Except.error.inj h).symm⟩
  next v hsome =>
    split at h
    · exact absurd h (by simp only [reduceCtorEq, not_false_eq_true])
    · exact .inr ⟨v, hsome, (Except.error.inj h).symm⟩

end Check

theorem cap_of_isCap (v : Json) (h : isCap v = true) : ∃ c, Cap.demand v = .ok c := by
  rcases Option.isSome_iff_exists.mp h with ⟨c, hc⟩
  exact ⟨c, by rw [Cap.demand, hc]⟩

namespace Config

/-- The sections that validation looks into are there. -/
structure HasSections (c : Config) : Prop where
  /-- The session section is there. -/
  session : ∃ s, c.session = .settings s
  /-- The shell section is there. -/
  shell : ∃ s, c.shell = .settings s
  /-- The logging section is there. -/
  logging : ∃ s, c.logging = .settings s

/-! ### Validation -/

theorem runChecks_eq_ok_iff (c : Config) (ks : List Check) :
    c.runChecks ks = .ok () ↔ ∀ k ∈ ks, k.run c = .ok () := by
  induction ks with
  | nil => simp only [runChecks, List.not_mem_nil, false_implies, implies_true]
  | cons k rest ih =>
      rw [runChecks, List.forall_mem_cons, ← ih]
      cases k.run c <;> simp

theorem runChecks_eq_error (c : Config) (ks : List Check) (f : ConfigFault)
    (h : c.runChecks ks = .error f) : ∃ k ∈ ks, k.run c = .error f := by
  induction ks with
  | nil => exact absurd h (by simp only [runChecks, reduceCtorEq, not_false_eq_true])
  | cons k rest ih =>
      rw [runChecks] at h
      split at h
      next f' hf =>
        rw [Except.error.inj h] at hf
        exact ⟨k, List.mem_cons_self, hf⟩
      next =>
        rcases ih h with ⟨k', hk', hf⟩
        exact ⟨k', List.mem_cons_of_mem _ hk', hf⟩

/-- A configuration is valid when each field that is looked at has an allowed
    value. -/
theorem validate_eq_ok_iff (c : Config) :
    c.validate = .ok () ↔
      ∀ k ∈ Check.all, ∃ v, c.fieldAt? k.part k.name = some v ∧ k.allows v = true := by
  rw [validate, runChecks_eq_ok_iff]
  exact forall₂_congr fun k _ => k.run_eq_ok_iff c

/-- What is wrong with a configuration is wrong with one of the fields. -/
theorem validate_eq_error (c : Config) (f : ConfigFault) (h : c.validate = .error f) :
    ∃ k ∈ Check.all, k.run c = .error f := runChecks_eq_error c Check.all f h

theorem validate_ne_readOnly (c : Config) : c.validate ≠ .error .readOnly := by
  intro h
  rcases c.validate_eq_error _ h with ⟨k, _, hk⟩
  rcases k.run_eq_error c _ hk with ⟨_, hf⟩ | ⟨v, _, hf⟩
  · exact absurd hf (by simp only [reduceCtorEq, not_false_eq_true])
  · exact k.fault_ne_readOnly v hf.symm

theorem settings_of_field? {α : Type} (fields : α → List (String × Json)) (s : Section α)
    (name : String) (v : Json) (h : field? fields s name = some v) :
    ∃ a, s = .settings a ∧ Fields.get? (fields a) name = some v := by
  cases s with
  | settings a => exact ⟨a, rfl, h⟩
  | replaced w => exact absurd h (by simp only [field?, reduceCtorEq, not_false_eq_true])

theorem hasSections_of_validate (c : Config) (h : c.validate = .ok ()) : c.HasSections := by
  have hchecks := c.validate_eq_ok_iff.mp h
  rcases hchecks (.cap "max_history") (by simp [Check.all]) with ⟨_, hsession, _⟩
  rcases hchecks .shell (by simp [Check.all]) with ⟨_, hshell, _⟩
  rcases hchecks .level (by simp [Check.all]) with ⟨_, hlevel, _⟩
  rcases settings_of_field? _ _ _ _ hsession with ⟨session, hsession, _⟩
  rcases settings_of_field? _ _ _ _ hshell with ⟨shell, hshell, _⟩
  rcases settings_of_field? _ _ _ _ hlevel with ⟨logging, hlogging, _⟩
  exact ⟨⟨session, hsession⟩, ⟨shell, hshell⟩, ⟨logging, hlogging⟩⟩

/-- In a valid configuration a field of the session section is a cap. -/
theorem demand_of_validate (c : Config) (h : c.validate = .ok ()) (s : SessionSettings)
    (hs : c.session = .settings s) (name : String) (hname : .cap name ∈ Check.all) (v : Json)
    (hv : Fields.get? s.fields name = some v) : ∃ cap, Cap.demand v = .ok cap := by
  rcases c.validate_eq_ok_iff.mp h (.cap name) hname with ⟨w, hw, hcap⟩
  have hfield : c.fieldAt? "session" name = some v := by rw [fieldAt?, hs]; exact hv
  rw [Option.some.inj (hfield.symm.trans hw)]
  exact cap_of_isCap w hcap

theorem lineCaps_eq_ok_iff (c : Config) (caps : LineCaps) :
    c.lineCaps = .ok caps ↔ ∃ s, c.session = .settings s ∧
      Cap.demand s.maxDispatchLines = .ok caps.maxDispatchLines ∧
      Cap.demand s.maxCommandLength = .ok caps.maxCommandLength := by
  rw [lineCaps]
  cases c.session with
  | replaced v => simp [Section.demand, bind, Except.bind]
  | settings s =>
      cases hlongest : Cap.demand s.maxCommandLength <;>
        cases hmost : Cap.demand s.maxDispatchLines <;>
        simp [Section.demand, bind, Except.bind, pure, Except.pure, hlongest, hmost,
          LineCaps.ext_iff]

theorem keptCaps_eq_ok_iff (c : Config) (caps : KeptCaps) :
    c.keptCaps = .ok caps ↔ ∃ s, c.session = .settings s ∧
      Cap.demand s.maxOutputLines = .ok caps.maxOutputLines ∧
      Cap.demand s.maxHistory = .ok caps.maxHistory := by
  rw [keptCaps]
  cases c.session with
  | replaced v => simp [Section.demand, bind, Except.bind]
  | settings s =>
      cases hlines : Cap.demand s.maxOutputLines <;>
        cases hcommands : Cap.demand s.maxHistory <;>
        simp [Section.demand, bind, Except.bind, pure, Except.pure, hlines, hcommands,
          KeptCaps.ext_iff]

theorem lineCaps_of_validate (c : Config) (h : c.validate = .ok ()) :
    ∃ caps, c.lineCaps = .ok caps := by
  rcases (c.hasSections_of_validate h).session with ⟨s, hs⟩
  have hdemand := c.demand_of_validate h s hs
  rcases hdemand "max_command_length" (by simp [Check.all]) s.maxCommandLength rfl with
    ⟨longest, hlongest⟩
  rcases hdemand "max_dispatch_lines" (by simp [Check.all]) s.maxDispatchLines rfl with
    ⟨most, hmost⟩
  exact ⟨⟨most, longest⟩, (lineCaps_eq_ok_iff c _).mpr ⟨s, hs, hmost, hlongest⟩⟩

theorem keptCaps_of_validate (c : Config) (h : c.validate = .ok ()) :
    ∃ caps, c.keptCaps = .ok caps := by
  rcases (c.hasSections_of_validate h).session with ⟨s, hs⟩
  have hdemand := c.demand_of_validate h s hs
  rcases hdemand "max_output_lines" (by simp [Check.all]) s.maxOutputLines rfl with
    ⟨lines, hlines⟩
  rcases hdemand "max_history" (by simp [Check.all]) s.maxHistory rfl with ⟨commands, hcommands⟩
  exact ⟨⟨lines, commands⟩, (keptCaps_eq_ok_iff c _).mpr ⟨s, hs, hlines, hcommands⟩⟩

/-- What a value gives has all its sections and is valid. -/
theorem ofJson_ok (data : Json) (c : Config) (h : ofJson data = .ok c) :
    (∃ terminal session shell files logging, c =
      { terminal := .settings terminal, session := .settings session, shell := .settings shell,
        files := .settings files, logging := .settings logging }) ∧ c.validate = .ok () := by
  cases data with
  | obj fields =>
      simp only [ofJson, ofFields] at h
      repeat' split at h
      -- Only one of the branches gives a configuration, and validation is the last step of it.
      all_goals first
        | exact absurd h (by simp only [reduceCtorEq, not_false_eq_true])
        | skip
      next hvalid =>
        rw [← Except.ok.inj h]
        exact ⟨⟨_, _, _, _, _, rfl⟩, hvalid⟩
  | _ => exact absurd h (by simp only [ofJson, reduceCtorEq, not_false_eq_true])

/-! ### Replacements -/

/-- What another value in a field comes to: the section is there, and of the
    configuration nothing but the section changes. -/
inductive FieldSet (c : Config) (name : String) (v : Json) : String → Config → Prop where
  /-- A field of the terminal section. -/
  | terminal (s s' : TerminalSettings) (hs : c.terminal = .settings s)
      (h : setTerminal? s name v = some s') :
      FieldSet c name v "terminal" { c with terminal := .settings s' }
  /-- A field of the session section. -/
  | session (s s' : SessionSettings) (hs : c.session = .settings s)
      (h : setSession? s name v = some s') :
      FieldSet c name v "session" { c with session := .settings s' }
  /-- A field of the shell section. -/
  | shell (s s' : ShellSettings) (hs : c.shell = .settings s)
      (h : setShell? s name v = some s') :
      FieldSet c name v "shell" { c with shell := .settings s' }
  /-- A field of the filesystem section. -/
  | filesystem (s s' : FileSettings) (hs : c.files = .settings s)
      (h : setFiles? s name v = some s') :
      FieldSet c name v "filesystem" { c with files := .settings s' }
  /-- A field of the logging section. -/
  | logging (s s' : LoggingSettings) (hs : c.logging = .settings s)
      (h : setLogging? s name v = some s') :
      FieldSet c name v "logging" { c with logging := .settings s' }

theorem bind_settings_eq_some {α : Type} (s : Section α) (f : α → Option α) (g : α → Config)
    (c : Config) (h : (s.get?.bind f).map g = some c) :
    ∃ a a', s = .settings a ∧ f a = some a' ∧ c = g a' := by
  rw [Option.map_eq_some_iff] at h
  rcases h with ⟨a', hbind, hc⟩
  rw [Option.bind_eq_some_iff] at hbind
  rcases hbind with ⟨a, ha, hf⟩
  exact ⟨a, a', Section.get?_eq_some s a ha, hf, hc.symm⟩

theorem fieldSet_of_setField? (c c' : Config) (part name : String) (v : Json)
    (h : c.setField? part name v = some c') : FieldSet c name v part c' := by
  unfold setField? at h
  split at h
  case h_1 part =>
    rcases bind_settings_eq_some _ _ _ _ h with ⟨s, s', hs, hf, rfl⟩
    exact .terminal s s' hs hf
  case h_2 part =>
    rcases bind_settings_eq_some _ _ _ _ h with ⟨s, s', hs, hf, rfl⟩
    exact .session s s' hs hf
  case h_3 part =>
    rcases bind_settings_eq_some _ _ _ _ h with ⟨s, s', hs, hf, rfl⟩
    exact .shell s s' hs hf
  case h_4 part =>
    rcases bind_settings_eq_some _ _ _ _ h with ⟨s, s', hs, hf, rfl⟩
    exact .filesystem s s' hs hf
  case h_5 part =>
    rcases bind_settings_eq_some _ _ _ _ h with ⟨s, s', hs, hf, rfl⟩
    exact .logging s s' hs hf
  case h_6 => exact absurd h (by simp only [reduceCtorEq, not_false_eq_true])

/-- What a replacement comes to before validation: a whole section or a field is
    another one. -/
theorem replaceAt?_cases (c c' : Config) (parts : List String) (v : Json)
    (h : c.replaceAt? parts v = some c') :
    (∃ part, parts = [part] ∧ c.replaceSection? part v = some c') ∨
      ∃ part name, parts = [part, name] ∧ FieldSet c name v part c' := by
  unfold replaceAt? at h
  split at h
  next part => exact .inl ⟨part, rfl, h⟩
  next part name => exact .inr ⟨part, name, rfl, fieldSet_of_setField? c c' part name v h⟩
  next => exact absurd h (by simp only [reduceCtorEq, not_false_eq_true])

theorem setTerminal?_fields (s s' : TerminalSettings) (name : String) (v : Json)
    (h : setTerminal? s name v = some s') :
    s'.fields = Fields.set s.fields name v ∧ ∃ old, Fields.get? s.fields name = some old := by
  unfold setTerminal? at h
  split at h
  case h_4 => exact absurd h (by simp only [reduceCtorEq, not_false_eq_true])
  all_goals
    rw [← Option.some.inj h]
    exact ⟨rfl, _, rfl⟩

theorem setSession?_fields (s s' : SessionSettings) (name : String) (v : Json)
    (h : setSession? s name v = some s') :
    s'.fields = Fields.set s.fields name v ∧ ∃ old, Fields.get? s.fields name = some old := by
  unfold setSession? at h
  split at h
  case h_5 => exact absurd h (by simp only [reduceCtorEq, not_false_eq_true])
  all_goals
    rw [← Option.some.inj h]
    exact ⟨rfl, _, rfl⟩

theorem setShell?_fields (s s' : ShellSettings) (name : String) (v : Json)
    (h : setShell? s name v = some s') :
    s'.fields = Fields.set s.fields name v ∧ ∃ old, Fields.get? s.fields name = some old := by
  unfold setShell? at h
  split at h
  case h_4 => exact absurd h (by simp only [reduceCtorEq, not_false_eq_true])
  all_goals
    rw [← Option.some.inj h]
    exact ⟨rfl, _, rfl⟩

theorem setFiles?_fields (s s' : FileSettings) (name : String) (v : Json)
    (h : setFiles? s name v = some s') :
    s'.fields = Fields.set s.fields name v ∧ ∃ old, Fields.get? s.fields name = some old := by
  unfold setFiles? at h
  split at h
  case h_4 => exact absurd h (by simp only [reduceCtorEq, not_false_eq_true])
  all_goals
    rw [← Option.some.inj h]
    exact ⟨rfl, _, rfl⟩

theorem setLogging?_fields (s s' : LoggingSettings) (name : String) (v : Json)
    (h : setLogging? s name v = some s') :
    s'.fields = Fields.set s.fields name v ∧ ∃ old, Fields.get? s.fields name = some old := by
  unfold setLogging? at h
  split at h
  case h_4 => exact absurd h (by simp only [reduceCtorEq, not_false_eq_true])
  all_goals
    rw [← Option.some.inj h]
    exact ⟨rfl, _, rfl⟩

/-- Nothing is found in a section that was taken out, and all else is as it was. -/
theorem fieldAt?_replaceSection? (c c' : Config) (part : String) (v : Json)
    (h : c.replaceSection? part v = some c') (other name : String) :
    c'.fieldAt? other name = if other = part then none else c.fieldAt? other name := by
  unfold replaceSection? at h
  split at h
  case h_6 => exact absurd h (by simp only [reduceCtorEq, not_false_eq_true])
  all_goals
    rw [← Option.some.inj h]
    unfold fieldAt?
    split <;> simp_all [field?]

/-- The value is found at its place, and all else is as it was. -/
theorem fieldAt?_fieldSet (c c' : Config) (part name : String) (v : Json)
    (h : FieldSet c name v part c') (other field : String) :
    c'.fieldAt? other field =
      if other = part ∧ field = name then some v else c.fieldAt? other field := by
  have hfield : ∀ fields fields' : List (String × Json), fields' = Fields.set fields name v →
      Fields.get? fields' field = if field = name then some v else Fields.get? fields field := by
    rintro fields _ rfl
    rw [Fields.get?_set]
    exact if_congr eq_comm rfl rfl
  by_cases hother : other = part
  · subst hother
    rw [if_congr (and_iff_right rfl) rfl rfl]
    cases h with
    | terminal s s' hs h =>
        simp only [fieldAt?, field?, hs]
        exact hfield _ _ (setTerminal?_fields s s' name v h).1
    | session s s' hs h =>
        simp only [fieldAt?, field?, hs]
        exact hfield _ _ (setSession?_fields s s' name v h).1
    | shell s s' hs h =>
        simp only [fieldAt?, field?, hs]
        exact hfield _ _ (setShell?_fields s s' name v h).1
    | filesystem s s' hs h =>
        simp only [fieldAt?, field?, hs]
        exact hfield _ _ (setFiles?_fields s s' name v h).1
    | logging s s' hs h =>
        simp only [fieldAt?, field?, hs]
        exact hfield _ _ (setLogging?_fields s s' name v h).1
  · rw [if_neg (fun hboth => hother hboth.1)]
    cases h
    all_goals
      unfold fieldAt?
      split <;> first | rfl | exact absurd rfl hother

theorem toJson_replaceSection? (c c' : Config) (part : String) (v : Json)
    (h : c.replaceSection? part v = some c') :
    c'.toJson = c.toJson ↔ c.lookup? [part] = some (.value v) := by
  unfold replaceSection? at h
  split at h
  case h_6 => exact absurd h (by simp only [reduceCtorEq, not_false_eq_true])
  all_goals
    rw [← Option.some.inj h]
    simp [toJson, sections, lookup?, Fields.get?, Section.toJson, eq_comm]

theorem toJson_fieldSet (c c' : Config) (part name : String) (v : Json)
    (h : FieldSet c name v part c') :
    c'.toJson = c.toJson ↔ c.lookup? [part, name] = some (.value v) := by
  -- What is found is the value of the field that was there.
  have hfound : ∀ fields fields' : List (String × Json), c.fieldAt? part name =
        Fields.get? fields name → (fields' = Fields.set fields name v ∧
          ∃ old, Fields.get? fields name = some old) →
      (fields' = fields ↔ c.lookup? [part, name] = some (.value v)) := by
    rintro fields _ hfield ⟨rfl, old, hold⟩
    rw [Fields.set_eq_self_iff fields name v old hold]
    simp [lookup?, hfield, hold, Attribute.follow?]
  cases h with
  | terminal s s' hs h =>
      rw [← hfound s.fields s'.fields (by rw [fieldAt?, hs]; rfl)
        (setTerminal?_fields s s' name v h)]
      simp [toJson, sections, hs, Section.toJson]
  | session s s' hs h =>
      rw [← hfound s.fields s'.fields (by rw [fieldAt?, hs]; rfl)
        (setSession?_fields s s' name v h)]
      simp [toJson, sections, hs, Section.toJson]
  | shell s s' hs h =>
      rw [← hfound s.fields s'.fields (by rw [fieldAt?, hs]; rfl) (setShell?_fields s s' name v h)]
      simp [toJson, sections, hs, Section.toJson]
  | filesystem s s' hs h =>
      rw [← hfound s.fields s'.fields (by rw [fieldAt?, hs]; rfl) (setFiles?_fields s s' name v h)]
      simp [toJson, sections, hs, Section.toJson]
  | logging s s' hs h =>
      rw [← hfound s.fields s'.fields (by rw [fieldAt?, hs]; rfl)
        (setLogging?_fields s s' name v h)]
      simp [toJson, sections, hs, Section.toJson]

/-- A replacement shows in what is exported, unless the value was there before. -/
theorem toJson_replaceAt? (c c' : Config) (parts : List String) (v : Json)
    (h : c.replaceAt? parts v = some c') :
    c'.toJson = c.toJson ↔ c.lookup? parts = some (.value v) := by
  rcases replaceAt?_cases c c' parts v h with ⟨part, rfl, hset⟩ | ⟨part, name, rfl, hset⟩
  · exact toJson_replaceSection? c c' part v hset
  · exact toJson_fieldSet c c' part name v hset

/-- In a valid configuration a replacement lets only the field fail that it is
    about, or those of the section that it is about. -/
theorem run_replaceAt? (c c' : Config) (hc : c.validate = .ok ()) (key : String) (v : Json)
    (h : c.replaceAt? (keyParts key) v = some c') (k : Check) (hk : k ∈ Check.all)
    (f : ConfigFault) (hf : k.run c' = .error f) :
    (key = k.part ∧ f = .noSection) ∨ (key = k.key ∧ f = k.fault v) := by
  rcases c.validate_eq_ok_iff.mp hc k hk with ⟨w, hw, hallows⟩
  -- A field that is as it was does not fail.
  have hsame : c'.fieldAt? k.part k.name ≠ c.fieldAt? k.part k.name := fun hsame => by
    have hrun := (k.run_eq_ok_iff c').mpr ⟨w, hsame.trans hw, hallows⟩
    exact absurd (hrun.symm.trans hf) (by simp only [reduceCtorEq, not_false_eq_true])
  rcases replaceAt?_cases c c' _ v h with ⟨part, hkey, hset⟩ | ⟨part, name, hkey, hset⟩
  · rw [fieldAt?_replaceSection? c c' part v hset] at hsame
    by_cases hpart : k.part = part
    · refine .inl ⟨(keyParts_singleton key part hkey).trans hpart.symm, ?_⟩
      have hnone := fieldAt?_replaceSection? c c' part v hset k.part k.name
      rw [if_pos hpart] at hnone
      rcases k.run_eq_error c' f hf with ⟨_, hf⟩ | ⟨w', hw', _⟩
      · exact hf
      · exact absurd (hnone.symm.trans hw') (by simp only [reduceCtorEq, not_false_eq_true])
    · rw [if_neg hpart] at hsame
      exact absurd rfl hsame
  · have hfield := fieldAt?_fieldSet c c' part name v hset k.part k.name
    by_cases hplace : k.part = part ∧ k.name = name
    · refine .inr ⟨?_, ?_⟩
      · rw [keyParts_pair key part name hkey, Check.key, hplace.1, hplace.2]
      · rw [if_pos hplace] at hfield
        rcases k.run_eq_error c' f hf with ⟨hnone, _⟩ | ⟨w', hw', hf⟩
        · exact absurd (hfield.symm.trans hnone) (by simp only [reduceCtorEq, not_false_eq_true])
        · rw [hf, Option.some.inj (hw'.symm.trans hfield)]
    · rw [if_neg hplace] at hfield
      exact absurd hfield hsame

/-- In a valid configuration there is something to replace under the keys of what
    validation looks at. -/
theorem replaceAt?_of_checked (c : Config) (hc : c.validate = .ok ()) (key : String)
    (hkey : key ∈ checkedSections ∨ key ∈ checkedFields) (v : Json) :
    ∃ c', c.replaceAt? (keyParts key) v = some c' := by
  rcases c.hasSections_of_validate hc with
    ⟨⟨session, hsession⟩, ⟨shell, hshell⟩, ⟨logging, hlogging⟩⟩
  simp only [checkedSections, checkedFields, Check.all, List.map_cons, List.map_nil, List.mem_cons,
    List.not_mem_nil, or_false] at hkey
  have hpair : ∀ part name : String, keyParts (part ++ "." ++ name) = [part, name] →
      c.replaceAt? (keyParts (part ++ "." ++ name)) v = c.setField? part name v :=
    fun part name hparts => by rw [hparts, replaceAt?]
  rcases hkey with (rfl | rfl | rfl) | (rfl | rfl | rfl | rfl | rfl | rfl)
  · exact ⟨_, rfl⟩
  · exact ⟨_, rfl⟩
  · exact ⟨_, rfl⟩
  · exact ⟨_, (hpair "session" "max_output_lines" rfl).trans (by rw [setField?, hsession]; rfl)⟩
  · exact ⟨_, (hpair "session" "max_history" rfl).trans (by rw [setField?, hsession]; rfl)⟩
  · exact ⟨_, (hpair "session" "max_dispatch_lines" rfl).trans (by rw [setField?, hsession]; rfl)⟩
  · exact ⟨_, (hpair "session" "max_command_length" rfl).trans (by rw [setField?, hsession]; rfl)⟩
  · exact ⟨_, (hpair "shell" "default_shell" rfl).trans (by rw [setField?, hshell]; rfl)⟩
  · exact ⟨_, (hpair "logging" "level" rfl).trans (by rw [setField?, hlogging]; rfl)⟩

end Config

theorem part_mem_checkedSections (k : Check) (h : k ∈ Check.all) : k.part ∈ checkedSections := by
  have hparts : ∀ part ∈ Check.all.map Check.part, part ∈ checkedSections := by decide
  exact hparts _ (List.mem_map_of_mem h)

theorem key_mem_checkedFields (k : Check) (h : k ∈ Check.all) : k.key ∈ checkedFields :=
  List.mem_map_of_mem h

theorem not_mem_checkedFields (key : String) (h : key ∈ checkedSections) :
    key ∉ checkedFields := by
  have hapart : ∀ part ∈ checkedSections, part ∉ checkedFields := by decide
  exact hapart key h

namespace ConfigStore

/-- A store that has loaded a value holds the configuration that the value gives. -/
theorem loadJson_ok (s s' : ConfigStore) (data : Json)
    (h : s.loadJson data = (.ok (), s')) :
    ∃ c, Config.ofJson data = .ok c ∧ s' = ⟨some c⟩ := by
  unfold loadJson at h
  cases hdata : Config.ofJson data with
  | error e => simp only [hdata, Prod.mk.injEq, reduceCtorEq, false_and] at h
  | ok c =>
      simp only [hdata, Prod.mk.injEq, true_and] at h
      exact ⟨c, rfl, h.symm⟩

/-! ### One Replacement -/

theorem isUndone_keyFault (c : Config) (key : String) : (c.keyFault key).IsUndone := by
  rw [Config.keyFault]
  cases c.lookup? (keyParts key) with
  | none => exact .inl ⟨_, rfl⟩
  | some a => exact .inr rfl

/-- A replacement that fails is undone, or it is there and cannot be looked
    into. -/
theorem set_error (s s' : ConfigStore) (key : String) (v : Json) (f : ConfigFault)
    (h : s.set key v = (.error f, s')) :
    (f.IsUndone ∧ s'.inForce = s.inForce) ∨
      (¬ f.IsUndone ∧ s.inForce.replaceAt? (keyParts key) v = some s'.inForce ∧
        s'.inForce.validate = .error f) := by
  unfold set at h
  simp only at h
  split at h
  next =>
    rw [Prod.mk.injEq] at h
    rw [← h.2, ← Except.error.inj h.1]
    exact .inl ⟨isUndone_keyFault s.inForce key, rfl⟩
  -- Only here validation has been asked, and only its refusals are undone.
  next c' hreplace =>
    split at h
    next =>
      exact absurd h (by simp only [Prod.mk.injEq, reduceCtorEq, false_and, not_false_eq_true])
    next e hvalid =>
      rw [Prod.mk.injEq] at h
      exact .inl ⟨.inl ⟨e, (Except.error.inj h.1).symm⟩, by rw [← h.2]; rfl⟩
    next e hnot hvalid =>
      rw [Prod.mk.injEq] at h
      rw [← h.2, ← Except.error.inj h.1]
      refine .inr ⟨?_, hreplace, hvalid⟩
      rintro (⟨e', he'⟩ | rfl)
      · exact hnot e' he'
      · exact c'.validate_ne_readOnly hvalid

/-- A replacement that is made leaves a valid configuration in force. -/
theorem set_ok (s s' : ConfigStore) (key : String) (v : Json) (h : s.set key v = (.ok (), s')) :
    s.inForce.replaceAt? (keyParts key) v = some s'.inForce ∧
      s'.inForce.validate = .ok () := by
  unfold set at h
  simp only at h
  split at h
  next => exact absurd h (by simp only [Prod.mk.injEq, reduceCtorEq, false_and, not_false_eq_true])
  next c' hreplace =>
    split at h
    next hvalid =>
      rw [Prod.mk.injEq] at h
      rw [← h.2]
      exact ⟨hreplace, hvalid⟩
    all_goals
      exact absurd h (by simp only [Prod.mk.injEq, reduceCtorEq, false_and, not_false_eq_true])

/-- Where there is something to replace, it is validation that fails. -/
theorem validate_of_set_error (s s' : ConfigStore) (key : String) (v : Json) (f : ConfigFault)
    (h : s.set key v = (.error f, s')) (c' : Config)
    (hreplace : s.inForce.replaceAt? (keyParts key) v = some c') : c'.validate = .error f := by
  simp only [set, hreplace] at h
  split at h
  next => exact absurd h (by simp only [Prod.mk.injEq, reduceCtorEq, false_and, not_false_eq_true])
  next e hvalid =>
    rw [Prod.mk.injEq] at h
    rw [hvalid, h.1]
  next e hnot hvalid =>
    rw [Prod.mk.injEq] at h
    rw [hvalid, h.1]

/-- In a valid configuration a replacement that fails is undone, unless its key
    names a section that validation looks into, or a field that it looks at and
    the value cannot be written. -/
theorem set_undone_iff (s s' : ConfigStore) (hs : s.inForce.validate = .ok ()) (key : String)
    (v : Json) (f : ConfigFault) (h : s.set key v = (.error f, s')) :
    f.IsUndone ↔ key ∉ checkedSections ∧ (key ∈ checkedFields → v.IsWritable) := by
  -- What failed is one of the fields that the replacement is about.
  have hfailed : ∀ c', s.inForce.replaceAt? (keyParts key) v = some c' → ∃ k ∈ Check.all,
      (key = k.part ∧ f = .noSection) ∨ (key = k.key ∧ f = k.fault v) := by
    intro c' hreplace
    rcases c'.validate_eq_error f (validate_of_set_error s s' key v f h c' hreplace) with
      ⟨k, hk, hf⟩
    exact ⟨k, hk, Config.run_replaceAt? _ c' hs key v hreplace k hk f hf⟩
  constructor
  · intro hundone
    refine ⟨fun hsection => ?_, fun hfield => ?_⟩
    · rcases Config.replaceAt?_of_checked _ hs key (.inl hsection) v with ⟨c', hreplace⟩
      rcases hfailed c' hreplace with ⟨k, hk, ⟨_, rfl⟩ | ⟨rfl, _⟩⟩
      · exact absurd hundone (by simp only [ConfigFault.IsUndone, reduceCtorEq, exists_false,
          or_self, not_false_eq_true])
      · exact absurd (key_mem_checkedFields k hk) (not_mem_checkedFields _ hsection)
    · rcases Config.replaceAt?_of_checked _ hs key (.inr hfield) v with ⟨c', hreplace⟩
      rcases hfailed c' hreplace with ⟨k, hk, ⟨rfl, _⟩ | ⟨_, rfl⟩⟩
      · exact absurd hfield (not_mem_checkedFields _ (part_mem_checkedSections k hk))
      · exact (k.fault_refused_iff v).mp (hundone.resolve_right (k.fault_ne_readOnly v))
  · rintro ⟨hsection, hwritable⟩
    rcases set_error s s' key v f h with ⟨hundone, _⟩ | ⟨_, hreplace, _⟩
    · exact hundone
    · rcases hfailed _ hreplace with ⟨k, hk, ⟨rfl, _⟩ | ⟨rfl, rfl⟩⟩
      · exact absurd (part_mem_checkedSections k hk) hsection
      · exact .inl ((k.fault_refused_iff v).mpr (hwritable (key_mem_checkedFields k hk)))

end ConfigStore

end SimTerm
