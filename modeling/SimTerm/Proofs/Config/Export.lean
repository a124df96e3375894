import SimTerm.Proofs.Config.Loading

/-!
# Exported Configurations

An exported configuration can be loaded again, and nothing is lost on the way.

Exporting writes out each section under its name and each field under its own,
and loading looks both up again. So the two undo each other one section at a
time, as long as all five sections are there (`IsWhole`) and validation lets
the configuration through (`ofJson_toJson`). Both hold of every configuration
that comes about by loading values and by setting single fields. Loading builds
all five sections and setting a field keeps the section that it is in, and both
end with a validation. Only a key that names a section as a whole could put a
plain value there, and such keys do not have two parts.

The other direction starts with a value that is loaded. What it gives for a
known field is then in that field, and exporting shows it at the same place.
What it gives for other fields is lost.

## Main definitions

* `Json.at?`: The value at a place of an object of objects.
* `Config.IsWhole`: All five sections are there.
* `ConfigStore.Reachable`: The stores after loading values and setting fields.

## Theorems

* `Config.at?_toJson`: What an exported configuration has at a place.
* `Config.ofJson_toJson`: An exported configuration gives itself.
* `Config.isWhole_of_fieldSet`: Setting a field keeps all sections.
* `ConfigStore.Reachable.sound`: What loading back asks for holds in each store.
* `ConfigStore.exported_loads_back`: Exporting and loading undo each other.
* `ConfigStore.exported_loads_back_changed`: They do after some changes.
-/

namespace SimTerm

/-- The value at a place of an object of objects, if there is one. -/
def Json.at? (v : Json) (part name : String) : Option Json :=
  match v with
  | .obj sections =>
    match Fields.get? sections part with
    | some (.obj fields) => Fields.get? fields name
    | _ => none
  | _ => none

namespace Config

/-- All five sections are there. -/
def IsWhole (c : Config) : Prop :=
  ∃ terminal session shell files logging, c =
    { terminal := .settings terminal, session := .settings session, shell := .settings shell,
      files := .settings files, logging := .settings logging }

/-- An exported configuration has its fields at their places, and nothing else. -/
theorem at?_toJson (c : Config) (hwhole : c.IsWhole) (part name : String) :
    c.toJson.at? part name = c.fieldAt? part name := by
  rcases hwhole with ⟨terminal, session, shell, files, logging, rfl⟩
  unfold fieldAt?
  split
  case h_6 hterminal hsession hshell hfiles hlogging =>
    -- What is written out has no other sections than the five.
    have hnone : Fields.get? (Config.sections ⟨.settings terminal, .settings session,
        .settings shell, .settings files, .settings logging⟩) part = none := by
      simp only [sections, Fields.get?_cons, if_neg (Ne.symm hterminal),
        if_neg (Ne.symm hsession), if_neg (Ne.symm hshell), if_neg (Ne.symm hfiles),
        if_neg (Ne.symm hlogging)]
      rfl
    rw [toJson, Json.at?, hnone]
  all_goals rfl

/-- A valid configuration that is exported and loaded is the same one. -/
theorem ofJson_toJson (c : Config) (hwhole : c.IsWhole) (hvalid : c.validate = .ok ()) :
    ofJson c.toJson = .ok c := by
  rcases hwhole with ⟨terminal, session, shell, files, logging, rfl⟩
  rw [toJson, ofJson, ofFields_eq_ok_iff]
  refine ⟨fun part hpart v hv => ?_, hvalid, rfl⟩
  simp only [sectionNames, List.mem_cons, List.not_mem_nil, or_false] at hpart
  rcases hpart with rfl | rfl | rfl | rfl | rfl
  all_goals exact ⟨_, (Option.some.inj hv).symm⟩

/-- Another value in a field leaves all sections there. -/
theorem isWhole_of_fieldSet (c c' : Config) (part name : String) (v : Json) (hwhole : c.IsWhole)
    (h : FieldSet c name v part c') : c'.IsWhole := by
  rcases hwhole with ⟨terminal, session, shell, files, logging, rfl⟩
  cases h
  all_goals exact ⟨_, _, _, _, _, rfl⟩

/-- A value that is loaded gives what it says for the known fields. -/
theorem fieldAt?_of_given (data : List (String × Json)) (c : Config) (h : ofFields data = .ok c)
    (part name : String) (given start : Json) (hgiven : (Json.obj data).at? part name = some given)
    (hknown : ({} : Config).fieldAt? part name = some start) :
    c.fieldAt? part name = some given := by
  rw [fieldAt?_of_ofFields data c h, resulting?, hknown, Option.map_some, fieldOr, givenFields]
  rw [Json.at?] at hgiven
  -- Only a section that is there, and an object, gives something.
  cases hpart : Fields.get? data part with
  | none =>
      rw [hpart] at hgiven
      exact absurd hgiven (by simp only [reduceCtorEq, not_false_eq_true])
  | some v =>
      rw [hpart] at hgiven
      cases v with
      | obj fields =>
          dsimp only at hgiven ⊢
          rw [hgiven, Option.getD_some]
      | _ => exact absurd hgiven (by simp only [reduceCtorEq, not_false_eq_true])

end Config

namespace ConfigStore

/-- The stores that come about by loading values and by setting fields of
    sections, each time with success. -/
inductive Reachable : ConfigStore → Prop where
  /-- Nothing was loaded yet. -/
  | start : Reachable {}
  /-- A value is loaded. -/
  | load (s s' : ConfigStore) (data : Json) (hs : Reachable s)
      (h : s.loadJson data = (.ok (), s')) : Reachable s'
  /-- A field of a section is set. -/
  | set (s s' : ConfigStore) (key part name : String) (v : Json) (hs : Reachable s)
      (hkey : keyParts key = [part, name]) (h : s.set key v = (.ok (), s')) : Reachable s'

/-- The configuration in force has all its sections, and it is valid. -/
theorem Reachable.sound (s : ConfigStore) (hs : s.Reachable) :
    s.inForce.IsWhole ∧ s.inForce.validate = .ok () := by
  induction hs with
  | start => exact ⟨⟨{}, {}, {}, {}, {}, rfl⟩, rfl⟩
  | load s s' data _ h ih =>
      rcases loadJson_ok s s' data h with ⟨c, hdata, rfl⟩
      exact Config.ofJson_ok data c hdata
  | set s s' key part name v _ hkey h ih =>
      rcases set_ok s s' key v h with ⟨hreplace, hvalid⟩
      refine ⟨?_, hvalid⟩
      rw [hkey] at hreplace
      rcases Config.replaceAt?_cases s.inForce s'.inForce _ v hreplace with
        ⟨_, hparts, _⟩ | ⟨_, _, _, hset⟩
      · -- A key of two parts names no section as a whole.
        exact absurd hparts (by simp only [List.cons.injEq, List.cons_ne_nil, and_false,
          not_false_eq_true])
      · exact Config.isWhole_of_fieldSet s.inForce s'.inForce _ _ v ih.1 hset

/-- Exporting and loading undo each other. A configuration that came about by
    loading values and by setting fields can be exported and loaded, in any
    store, and what is exported then is the same. And what a value that is loaded
    gives for a known field is exported at the same place. The known fields are
    those that are exported to start with. -/
theorem exported_loads_back :
    (∀ s : ConfigStore, s.Reachable → ∀ t : ConfigStore,
      ∃ t', t.loadJson s.inForce.toJson = (.ok (), t') ∧
        t'.inForce.toJson = s.inForce.toJson) ∧
    ∀ (s s' : ConfigStore) (data : Json), s.loadJson data = (.ok (), s') →
      ∀ part name start given, ({} : ConfigStore).inForce.toJson.at? part name = some start →
        data.at? part name = some given → s'.inForce.toJson.at? part name = some given := by
  constructor
  · intro s hs t
    rcases hs.sound with ⟨hwhole, hvalid⟩
    refine ⟨⟨some s.inForce⟩, ?_, rfl⟩
    rw [loadJson, Config.ofJson_toJson _ hwhole hvalid]
  · intro s s' data h part name start given hknown hgiven
    rw [Config.at?_toJson _ (Reachable.sound _ .start).1] at hknown
    rcases loadJson_ok s s' data h with ⟨c, hdata, rfl⟩
    rw [inForce, Option.getD_some, Config.at?_toJson _ (Config.ofJson_ok data c hdata).1]
    cases data with
    | obj fields =>
        exact Config.fieldAt?_of_given fields c hdata part name given start hgiven hknown
    -- Only an object is loaded.
    | _ => exact absurd hdata (by simp only [Config.ofJson, reduceCtorEq, not_false_eq_true])

/-- A value with a cap and an unknown field is loaded, and then a list is set for
    the name of the machine. -/
theorem exported_loads_back_changed :
    let data := Json.obj [("session", .obj [("max_history", .int 5), ("depth", .int 1)])]
    let loaded := (({} : ConfigStore).loadJson data).2
    let s := (loaded.set "shell.hostname" (.arr [.null])).2
    s.Reachable ∧ (∃ t', ({} : ConfigStore).loadJson s.inForce.toJson = (.ok (), t') ∧
        t'.inForce.toJson = s.inForce.toJson) ∧
      s.inForce.toJson.at? "shell" "hostname" = some (.arr [.null]) ∧
      ({} : ConfigStore).loadJson data = (.ok (), loaded) ∧
      ({} : ConfigStore).inForce.toJson.at? "session" "max_history" = some (.int 100) ∧
      data.at? "session" "max_history" = some (.int 5) ∧
      loaded.inForce.toJson.at? "session" "max_history" = some (.int 5) := by
  intro data loaded s
  have hload : ({} : ConfigStore).loadJson data = (.ok (), loaded) := rfl
  have hset : loaded.set "shell.hostname" (.arr [.null]) = (.ok (), s) := rfl
  have hs : s.Reachable :=
    .set loaded s _ "shell" "hostname" _ (.load {} loaded data .start hload) rfl hset
  exact ⟨hs, exported_loads_back.1 s hs {}, rfl, hload, rfl, rfl,
    exported_loads_back.2 {} loaded data hload _ _ _ _ rfl rfl⟩

end ConfigStore

end SimTerm
