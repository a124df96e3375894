import SimTerm.Proofs.Config.LevelName
import SimTerm.Proofs.Config.Replacement
import SimTerm.Proofs.Fields

/-!
# Loading Configurations

What a value that is loaded has to be, and what is in force afterwards.

Each section is built in the same way. Its fields are those of the section to
start from, in the same order, and each has the value that is given for it or
else the one to start from (`completed`). So the fields of the configuration can
be read off the object at once (`fieldAt?_assembled`), and no other field of the
object and no earlier configuration comes in anywhere.

Whether there is a configuration at all is decided in two places. A section that
is no object ends the work before any value is looked at (`Sectioned`). Where all
of them are objects, the caps are left to check, the shell and the level
(`Admissible`).

## Main definitions

* `Config.resulting?`: The value that an object gives for a field, or the one to
  start from.
* `Config.Sectioned`: What an object gives for the sections are objects.
* `Config.Admissible`: An object gives a configuration.

## Theorems

* `Config.ofFields_of_sectioned`, `Config.ofFields_of_not_sectioned`: What comes
  of an object.
* `Config.validate_assembled_iff`: Which fields are valid.
* `Config.fieldAt?_assembled`: The fields of what an object gives.
* `Config.ofFields_eq_ok_iff`: Which objects give a configuration, and which one.
* `Config.ofFields_congr`: Only the known fields of an object count.
* `ConfigStore.loadJson_all_or_nothing`: What loading does to a store.
-/

namespace SimTerm

/-- The caps are the positive whole numbers. -/
theorem isCap_iff (v : Json) : isCap v = true ↔ ∃ n : Int, 0 < n ∧ v = .int n := by
  rw [isCap]
  unfold Cap.ofJson?
  split
  · exact iff_of_true rfl ⟨_, Int.natCast_pos.mpr (Nat.succ_pos _), rfl⟩
  · rename_i hnot
    refine iff_of_false (by simp) ?_
    rintro ⟨n, hpos, rfl⟩
    obtain ⟨m, rfl⟩ := Int.eq_succ_of_zero_lt hpos
    exact hnot m rfl

theorem isShellName_iff (v : Json) :
    isShellName v = true ↔ ∃ name ∈ Persona.names, v = .str name := by
  cases v with
  | str s => simp only [isShellName, List.contains_iff_mem, Json.str.injEq, exists_eq_right']
  | _ => simp only [isShellName, Bool.false_eq_true, reduceCtorEq, and_false, exists_false]

theorem isLevelName_iff (v : Json) :
    isLevelName v = true ↔
      ∃ text, v.display = .ok text ∧ ∃ l : Level, Text.upper text.toList = l.name.toList := by
  simp only [isLevelName, Option.isSome_iff_exists, levelOf?_eq_some_iff]
  exact ⟨fun ⟨l, text, htext, hname⟩ => ⟨text, htext, l, hname⟩,
    fun ⟨text, htext, l, hname⟩ => ⟨l, text, htext, hname⟩⟩

namespace Config

/-- The names of the five sections. -/
def sectionNames : List String := ["terminal", "session", "shell", "filesystem", "logging"]

/-- The names of the four caps of a session. -/
def capNames : List String :=
  ["max_output_lines", "max_history", "max_dispatch_lines", "max_command_length"]

/-- The fields that an object gives for a section; none if it does not name the
    section. -/
def givenFields (data : List (String × Json)) (part : String) : List (String × Json) :=
  match Fields.get? data part with
  | some (.obj fields) => fields
  | _ => []

/-- The value of a field that results from an object: the one that the object gives
    for it, or the one to start from. -/
def resulting? (data : List (String × Json)) (part name : String) : Option Json :=
  (({} : Config).fieldAt? part name).map (fieldOr (givenFields data part) name)

/-- What an object gives for the sections are objects. -/
def Sectioned (data : List (String × Json)) : Prop :=
  ∀ part ∈ sectionNames, ∀ v, Fields.get? data part = some v → ∃ fields, v = .obj fields

/-- An object gives a configuration. -/
structure Admissible (data : List (String × Json)) : Prop where
  /-- The sections that it names are objects. -/
  sections : Sectioned data
  /-- The caps are positive whole numbers. -/
  caps : ∀ name ∈ capNames, ∃ n : Int, 0 < n ∧ resulting? data "session" name = some (.int n)
  /-- The shell to start with is one of the four. -/
  shell : ∃ name ∈ Persona.names, resulting? data "shell" "default_shell" = some (.str name)
  /-- What is shown of the level is one of the five in upper case. -/
  level : ∃ v, resulting? data "logging" "level" = some v ∧
    ∃ text, v.display = .ok text ∧ ∃ l : Level, Text.upper text.toList = l.name.toList

/-! ### Sections -/

/-- Fields with the values that are given for them in place of those to start from. -/
def completed (start given : List (String × Json)) : List (String × Json) :=
  start.map (fun field => (field.1, fieldOr given field.1 field.2))

theorem get?_completed (start given : List (String × Json)) (name : String) :
    Fields.get? (completed start given) name = (Fields.get? start name).map (fieldOr given name) :=
  Fields.get?_map start (fieldOr given) name

theorem completed_congr (start given given' : List (String × Json))
    (hnodup : (Fields.names start).Nodup)
    (h : ∀ name, (Fields.get? start name).map (fieldOr given name) =
      (Fields.get? start name).map (fieldOr given' name)) :
    completed start given = completed start given' := by
  refine List.map_congr_left fun field hfield => ?_
  have hsame := h field.1
  rw [Fields.get?_of_mem start hnodup field hfield] at hsame
  rw [Option.some.inj hsame]

theorem sectionFields_eq_ok_iff (data : List (String × Json)) (part : String)
    (fields : List (String × Json)) :
    sectionFields data part = .ok fields ↔
      (∀ v, Fields.get? data part = some v → ∃ own, v = .obj own) ∧
        givenFields data part = fields := by
  rw [sectionFields, givenFields]
  cases Fields.get? data part with
  | none => simp
  | some v => cases v <;> simp

/-! ### Configurations -/

/-- The configuration that an object gives, before validation. -/
def assembled (data : List (String × Json)) : Config :=
  { terminal := .settings (terminalOf (givenFields data "terminal"))
    session := .settings (sessionOf (givenFields data "session"))
    shell := .settings (shellOf (givenFields data "shell"))
    files := .settings (filesOf (givenFields data "filesystem"))
    logging := .settings (loggingOf (givenFields data "logging")) }

theorem ofFields_of_sectioned (data : List (String × Json)) (h : Sectioned data) :
    ofFields data = match (assembled data).validate with
      | .error e => .error e
      | .ok _ => .ok (assembled data) := by
  have hpart : ∀ part ∈ sectionNames, sectionFields data part = .ok (givenFields data part) :=
    fun part hpart => (sectionFields_eq_ok_iff data part _).mpr ⟨h part hpart, rfl⟩
  rw [ofFields, hpart "terminal" (by decide), hpart "session" (by decide),
    hpart "shell" (by decide), hpart "filesystem" (by decide), hpart "logging" (by decide)]
  rfl

theorem ofFields_of_not_sectioned (data : List (String × Json)) (h : ¬ Sectioned data) :
    ofFields data = .error .noSection := by
  rw [ofFields]
  split
  · rename_i hterminal hsession hshell hfiles hlogging
    have hobject := fun part fields hpart => ((sectionFields_eq_ok_iff data part fields).mp hpart).1
    refine absurd ?_ h
    simp only [Sectioned, sectionNames, List.forall_mem_cons]
    exact ⟨hobject _ _ hterminal, hobject _ _ hsession, hobject _ _ hshell, hobject _ _ hfiles,
      hobject _ _ hlogging, List.forall_mem_nil _⟩
  · rfl

/-- The fields of the configuration that an object gives. -/
theorem fieldAt?_assembled (data : List (String × Json)) (part name : String) :
    (assembled data).fieldAt? part name = resulting? data part name := by
  unfold resulting? fieldAt?
  split
  · exact get?_completed ({} : TerminalSettings).fields _ name
  · exact get?_completed ({} : SessionSettings).fields _ name
  · exact get?_completed ({} : ShellSettings).fields _ name
  · exact get?_completed ({} : FileSettings).fields _ name
  · exact get?_completed ({} : LoggingSettings).fields _ name
  · rfl

/-- It is valid if the values are allowed that validation looks at. -/
theorem validate_assembled_iff (data : List (String × Json)) :
    (assembled data).validate = .ok () ↔
      (∀ name ∈ capNames, ∃ n : Int, 0 < n ∧ resulting? data "session" name = some (.int n)) ∧
        (∃ name ∈ Persona.names, resulting? data "shell" "default_shell" = some (.str name)) ∧
          ∃ v, resulting? data "logging" "level" = some v ∧
            ∃ text, v.display = .ok text ∧ ∃ l : Level, Text.upper text.toList = l.name.toList := by
  have hcap : ∀ name, (∃ v, resulting? data "session" name = some v ∧ isCap v = true) ↔
      ∃ n : Int, 0 < n ∧ resulting? data "session" name = some (.int n) := fun name => by
    simp only [isCap_iff]
    exact ⟨fun ⟨_, hv, n, hpos, hn⟩ => ⟨n, hpos, hn ▸ hv⟩,
      fun ⟨n, hpos, hv⟩ => ⟨_, hv, n, hpos, rfl⟩⟩
  have hshell : (∃ v, resulting? data "shell" "default_shell" = some v ∧ isShellName v = true) ↔
      ∃ name ∈ Persona.names, resulting? data "shell" "default_shell" = some (.str name) := by
    simp only [isShellName_iff]
    exact ⟨fun ⟨_, hv, name, hname, hn⟩ => ⟨name, hname, hn ▸ hv⟩,
      fun ⟨name, hname, hv⟩ => ⟨_, hv, name, hname, rfl⟩⟩
  rw [validate_eq_ok_iff, ← hshell]
  simp only [← hcap, ← isLevelName_iff, fieldAt?_assembled, Check.all, capNames,
    List.forall_mem_cons, List.not_mem_nil, false_implies, implies_true, and_true, Check.cap,
    Check.shell, Check.level, and_assoc]

/-- Which objects give a configuration, and which one. -/
theorem ofFields_eq_ok_iff (data : List (String × Json)) (c : Config) :
    ofFields data = .ok c ↔ Sectioned data ∧ c.validate = .ok () ∧ assembled data = c := by
  by_cases h : Sectioned data
  · rw [ofFields_of_sectioned data h]
    simp only [h, true_and]
    constructor
    · intro hc
      split at hc
      · exact absurd hc (by simp only [reduceCtorEq, not_false_eq_true])
      · rename_i hvalid
        rw [← Except.ok.inj hc]
        exact ⟨hvalid, rfl⟩
    · rintro ⟨hvalid, rfl⟩
      rw [hvalid]
  · rw [ofFields_of_not_sectioned data h]
    exact iff_of_false (by simp only [reduceCtorEq, not_false_eq_true]) (fun hc => h hc.1)

/-- An object that is admissible gives a configuration, and no other one does. -/
theorem exists_ofFields_iff (data : List (String × Json)) :
    (∃ c, ofFields data = .ok c) ↔ Admissible data := by
  constructor
  · rintro ⟨c, hc⟩
    rcases (ofFields_eq_ok_iff data c).mp hc with ⟨hsections, hvalid, rfl⟩
    rcases (validate_assembled_iff data).mp hvalid with ⟨hcaps, hshell, hlevel⟩
    exact ⟨hsections, hcaps, hshell, hlevel⟩
  · intro h
    exact ⟨assembled data, (ofFields_eq_ok_iff data _).mpr
      ⟨h.sections, (validate_assembled_iff data).mpr ⟨h.caps, h.shell, h.level⟩, rfl⟩⟩

/-- Only an object gives a configuration. -/
theorem exists_ofJson_iff (v : Json) :
    (∃ c, ofJson v = .ok c) ↔ ∃ data, v = .obj data ∧ Admissible data := by
  cases v with
  | obj fields => simp only [ofJson, exists_ofFields_iff, Json.obj.injEq, exists_eq_left']
  | _ => simp only [ofJson, reduceCtorEq, exists_false, false_and]

/-- The configuration that an object gives has the fields that result from it. -/
theorem fieldAt?_of_ofFields (data : List (String × Json)) (c : Config)
    (h : ofFields data = .ok c) (part name : String) :
    c.fieldAt? part name = resulting? data part name := by
  rcases (ofFields_eq_ok_iff data c).mp h with ⟨_, _, rfl⟩
  exact fieldAt?_assembled data part name

/-- Objects in which the known fields result alike give the same configuration, or
    are refused for the same reason. -/
theorem ofFields_congr (data data' : List (String × Json))
    (hsections : Sectioned data ↔ Sectioned data')
    (h : ∀ part name, resulting? data part name = resulting? data' part name) :
    ofFields data = ofFields data' := by
  by_cases hdata : Sectioned data
  · rw [ofFields_of_sectioned data hdata, ofFields_of_sectioned data' (hsections.mp hdata)]
    have hterminal := completed_congr ({} : TerminalSettings).fields _ _ (by decide) (h "terminal")
    have hsession := completed_congr ({} : SessionSettings).fields _ _ (by decide) (h "session")
    have hshell := completed_congr ({} : ShellSettings).fields _ _ (by decide) (h "shell")
    have hfiles := completed_congr ({} : FileSettings).fields _ _ (by decide) (h "filesystem")
    have hlogging := completed_congr ({} : LoggingSettings).fields _ _ (by decide) (h "logging")
    simp only [completed, TerminalSettings.fields, SessionSettings.fields, ShellSettings.fields,
      FileSettings.fields, LoggingSettings.fields, List.map_cons, List.map_nil, List.cons.injEq,
      Prod.mk.injEq, true_and, and_true] at hterminal hsession hshell hfiles hlogging
    simp only [assembled, terminalOf, sessionOf, shellOf, filesOf, loggingOf, hterminal, hsession,
      hshell, hfiles, hlogging]
  · rw [ofFields_of_not_sectioned data hdata,
      ofFields_of_not_sectioned data' (fun hdata' => hdata (hsections.mpr hdata'))]

end Config

namespace ConfigStore

/-- Loading a value replaces the whole configuration or nothing. There is a new one
    exactly if the value is an object that gives one. Its fields are then those that
    result from the object, and neither other fields nor what was loaded before make
    a difference. -/
theorem loadJson_all_or_nothing (s : ConfigStore) (v : Json) :
    ((s.loadJson v).1 = .ok () ↔ ∃ data, v = .obj data ∧ Config.Admissible data) ∧
    (∀ data, v = .obj data → (s.loadJson v).1 = .ok () → (s.loadJson v).2.isLoaded = true ∧
      ∀ part name, (s.loadJson v).2.inForce.fieldAt? part name =
        Config.resulting? data part name) ∧
    (∀ s' : ConfigStore, (s'.loadJson v).1 = (s.loadJson v).1 ∧
      ((s.loadJson v).1 = .ok () → (s'.loadJson v).2 = (s.loadJson v).2)) ∧
    (∀ data data', (Config.Sectioned data ↔ Config.Sectioned data') →
      (∀ part name, Config.resulting? data part name = Config.resulting? data' part name) →
      s.loadJson (.obj data) = s.loadJson (.obj data')) ∧
    ∀ f, (s.loadJson v).1 = .error f → (s.loadJson v).2 = s := by
  have hcongr : ∀ data data', (Config.Sectioned data ↔ Config.Sectioned data') →
      (∀ part name, Config.resulting? data part name = Config.resulting? data' part name) →
      s.loadJson (.obj data) = s.loadJson (.obj data') := by
    intro data data' hsections hresulting
    rw [loadJson, loadJson, Config.ofJson, Config.ofJson,
      Config.ofFields_congr data data' hsections hresulting]
  rw [← Config.exists_ofJson_iff]
  cases hv : Config.ofJson v with
  | ok c =>
      have hload : ∀ s' : ConfigStore, s'.loadJson v = (.ok (), ⟨some c⟩) := by
        intro s'
        rw [loadJson, hv]
      simp only [hload]
      refine ⟨iff_of_true trivial ⟨c, rfl⟩, ?_, fun _ => ⟨trivial, fun _ => trivial⟩, hcongr, ?_⟩
      · rintro data rfl _
        exact ⟨rfl, Config.fieldAt?_of_ofFields data c hv⟩
      · exact fun f hf => absurd hf (by simp only [reduceCtorEq, not_false_eq_true])
  | error f =>
      have hload : ∀ s' : ConfigStore, s'.loadJson v = (.error f, s') := by
        intro s'
        rw [loadJson, hv]
      have hfails : ¬ (Except.error f : Except ConfigFault Unit) = .ok () := by
        simp only [reduceCtorEq, not_false_eq_true]
      simp only [hload]
      refine ⟨iff_of_false hfails ?_, ?_, ?_, hcongr, fun _ _ => trivial⟩
      · rintro ⟨c, hc⟩
        exact absurd hc (by simp only [reduceCtorEq, not_false_eq_true])
      · exact fun _ _ hok => absurd hok hfails
      · exact fun _ => ⟨trivial, fun hok => absurd hok hfails⟩

/-- Keys that are not known are passed over, in a section and beside it. -/
example (s : ConfigStore) :
    s.loadJson (.obj [("colour", .int 1), ("session", .obj [("depth", .null)])]) =
      s.loadJson (.obj []) := rfl

end ConfigStore

end SimTerm
