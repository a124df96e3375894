import SimTerm.Proofs.Fields
import SimTerm.Proofs.Shell.RcLine
import SimTerm.Shell

/-!
# The Tables of a Shell

Which names stand in the tables of a shell, and which of them can be used.

Aliases and variables are kept by name, in a table for each persona. A name of
the one kind is of use if it can be the first word of a line, a name of the
other kind if it is a variable name. `Dictionary` stands for the kind, so that
what follows is said once for both.

A shell is changed by choosing another persona, by reading a configuration and
by setting single entries. The first changes no table. The second can only put
names into them that are of use, as its scanner reads no others
(`wellNamed_load`). The third puts in whatever it is told to, and nothing is
ever taken out again. So whether all names are of use is decided by the single
entries alone (`wellNamed_setAlias`, `wellNamed_setVariables`).

## Main definitions

* `Dictionary`: The two kinds of tables, with the names that are of use in them.
* `Shell.names`: The names in the tables of a shell.
* `Shell.WellNamed`: All of them are of use.
* `Shell.AliasesUsable`: Every alias is replaced where it is the first word.

## Theorems

* `wellNamed_load`, `wellNamed_setAlias`, `wellNamed_setVariables`: How changes
  of a shell bear on its names.
* `wellNamed_start`: The names in a new shell are of use.
* `aliasesUsable_iff`: Aliases can be used if their names are of use.
-/

namespace SimTerm

/-- The tables of a profile that lines write in. -/
inductive Dictionary where
  /-- The aliases. -/
  | aliases
  /-- The variables. -/
  | environment
deriving Repr, DecidableEq

namespace Dictionary

/-- The table of a profile. -/
def table : Dictionary → Profile → Table
  | .aliases => Profile.aliases
  | .environment => Profile.environment

/-- A name is of use in a table: as the first word of a line, or as a variable name. -/
def Admits : Dictionary → String → Prop
  | .aliases, name => Text.IsWord name.toList
  | .environment, name => Text.isIdentifier name.toList = true

/-- The name that a line of a shell configuration puts into a table. -/
def nameIn? : Dictionary → RcLine → Option String
  | .aliases, .aliasLine name _ => some (String.ofList name)
  | .environment, .variableLine name _ => some (String.ofList name)
  | _, _ => none

/-- A line of a shell configuration puts no other names into a table than are of use in it. -/
theorem admits_of_nameIn? (d : Dictionary) (line : List Char) (name : String)
    (h : d.nameIn? (RcLine.ofText line) = some name) : d.Admits name := by
  -- In each table there is one kind of line that puts a name there.
  cases d with
  | aliases =>
      unfold nameIn? at h
      split at h
      case h_1 name' value _ hline =>
        rw [← Option.some.inj h, Admits, String.toList_ofList]
        exact RcLine.ofText_aliasLine line name' value hline
      case h_2 hother _ => exact absurd hother (by simp only [reduceCtorEq, not_false_eq_true])
      case h_3 => exact absurd h (by simp only [reduceCtorEq, not_false_eq_true])
  | environment =>
      unfold nameIn? at h
      split at h
      case h_1 hother _ => exact absurd hother (by simp only [reduceCtorEq, not_false_eq_true])
      case h_2 name' value _ hline =>
        rw [← Option.some.inj h, Admits, String.toList_ofList]
        exact RcLine.ofText_variableLine line name' value hline
      case h_3 => exact absurd h (by simp only [reduceCtorEq, not_false_eq_true])

end Dictionary

/-! ### The names of a profile -/

namespace Profile

theorem mem_names_apply (d : Dictionary) (p : Profile) (line : RcLine) (name : String) :
    name ∈ Fields.names (d.table (p.apply line)) ↔
      name ∈ Fields.names (d.table p) ∨ d.nameIn? line = some name := by
  cases d <;> cases line <;>
    simp only [apply, Dictionary.table, Dictionary.nameIn?, Fields.mem_names_set, reduceCtorEq,
      or_false, Option.some.injEq, eq_comm]

/-- After some lines the tables have the names of these lines as well. -/
theorem mem_names_foldl_apply (d : Dictionary) (lines : List RcLine) (p : Profile)
    (name : String) :
    name ∈ Fields.names (d.table (lines.foldl apply p)) ↔
      name ∈ Fields.names (d.table p) ∨ ∃ line ∈ lines, d.nameIn? line = some name := by
  induction lines generalizing p with
  | nil => simp only [List.foldl_nil, List.not_mem_nil, false_and, exists_false, or_false]
  | cons line rest ih =>
      rw [List.foldl_cons, ih, mem_names_apply, or_assoc]
      simp only [List.mem_cons, exists_eq_or_imp]

end Profile

namespace Shell

/-- The names in a table of a persona. -/
def names (d : Dictionary) (sh : Shell) (who : Persona) : List String :=
  Fields.names (d.table (sh.profiles.get who))

/-- All names in the tables of all personas are of use. -/
def WellNamed (d : Dictionary) (sh : Shell) : Prop :=
  ∀ who, ∀ name ∈ sh.names d who, d.Admits name

/-- Every alias of every persona is a word, and with that persona active it is
    replaced at the start of every line where it is the first word. -/
def AliasesUsable (sh : Shell) : Prop :=
  ∀ who name value, Fields.get? (sh.profiles.get who).aliases name = some value →
    Text.IsWord name.toList ∧
      ∀ rest : String, (∀ ch ∈ rest.toList.head?, Text.isBlank ch = true) →
        ({ sh with active := who } : Shell).expandAlias (name ++ rest) = value ++ rest

/-! ### Changes of a shell -/

variable (d : Dictionary) (sh : Shell)

/-- A change that puts some names into the tables of the active persona leaves
    a shell well named if it was and these names are of use. -/
theorem wellNamed_modify (f : Profile → Profile) (new : String → Prop)
    (hf : ∀ p name, name ∈ Fields.names (d.table (f p)) ↔
      name ∈ Fields.names (d.table p) ∨ new name) :
    (sh.modify f).WellNamed d ↔ sh.WellNamed d ∧ ∀ name, new name → d.Admits name := by
  -- Only the active persona has new names.
  have hactive : ∀ name, name ∈ (sh.modify f).names d sh.active ↔
      name ∈ sh.names d sh.active ∨ new name := by
    intro name
    simp only [names, modify, Profiles.get_set, hf, profile]
  have hother : ∀ who, who ≠ sh.active → (sh.modify f).names d who = sh.names d who := by
    intro who hwho
    simp only [names, modify, Profiles.get_set_of_ne _ _ hwho]
  constructor
  · intro h
    refine ⟨fun who name hname => h who name ?_, fun name hname => h sh.active name ?_⟩
    · by_cases hwho : who = sh.active
      · rw [hwho] at hname ⊢
        exact (hactive name).mpr (.inl hname)
      · rw [hother who hwho]
        exact hname
    · exact (hactive name).mpr (.inr hname)
  · rintro ⟨hold, hnew⟩ who name hname
    by_cases hwho : who = sh.active
    · rw [hwho] at hname
      rcases (hactive name).mp hname with hname | hname
      · exact hold _ name hname
      · exact hnew name hname
    · rw [hother who hwho] at hname
      exact hold who name hname

/-- Choosing another persona changes no table. -/
theorem wellNamed_switch? (name : String) (sh' : Shell) (h : sh.switch? name = some sh') :
    sh'.WellNamed d ↔ sh.WellNamed d := by
  rcases Option.map_eq_some_iff.mp h with ⟨who, _, hsh⟩
  rw [← hsh]
  rfl

/-- A configuration that is read puts no name into a table that is of no use. -/
theorem wellNamed_load (text : String) :
    (sh.load text).value.2.WellNamed d ↔ sh.WellNamed d := by
  rw [load, loadLines, wellNamed_modify d sh _ _ (Profile.mem_names_foldl_apply d _)]
  refine and_iff_left ?_
  rintro name ⟨line, hline, hname⟩
  rcases List.mem_map.mp hline with ⟨text', _, htext⟩
  rw [← htext] at hname
  exact d.admits_of_nameIn? text' name hname

/-- A single entry bears on the table that it is made in, and on no other. -/
theorem wellNamed_modify_set (e : Dictionary) (f : Profile → Profile) (name value : String)
    (hset : ∀ p, e.table (f p) = Fields.set (e.table p) name value)
    (hkeep : ∀ p, d ≠ e → d.table (f p) = d.table p) :
    (sh.modify f).WellNamed d ↔ sh.WellNamed d ∧ (d = e → d.Admits name) := by
  -- The entry is new in the table that it is made in.
  rw [wellNamed_modify d sh f (fun other => d = e ∧ other = name) ?_]
  · refine and_congr_right' ⟨fun h hd => h name ⟨hd, rfl⟩, ?_⟩
    rintro h other ⟨hd, rfl⟩
    exact h hd
  · intro p other
    by_cases hd : d = e
    · rw [hd, hset, Fields.mem_names_set]
      simp only [true_and]
    · rw [hkeep p hd]
      simp only [hd, false_and, or_false]

theorem wellNamed_setAlias (name value : String) :
    (sh.setAlias name value).WellNamed d ↔
      sh.WellNamed d ∧ (d = .aliases → d.Admits name) :=
  wellNamed_modify_set d sh .aliases _ name value (fun _ => rfl) fun _ hd => by
    cases d with
    | aliases => exact absurd rfl hd
    | environment => rfl

theorem wellNamed_setVariable (name value : String) :
    (sh.setVariable name value).WellNamed d ↔
      sh.WellNamed d ∧ (d = .environment → d.Admits name) :=
  wellNamed_modify_set d sh .environment _ name value (fun _ => rfl) fun _ hd => by
    cases d with
    | aliases => rfl
    | environment => exact absurd rfl hd

/-- Variables that are set one after the other bear on the table of variables only. -/
theorem wellNamed_setVariables (assignments : List (String × String)) :
    (assignments.foldl (fun sh a => sh.setVariable a.1 a.2) sh).WellNamed d ↔
      sh.WellNamed d ∧ ∀ a ∈ assignments, d = .environment → d.Admits a.1 := by
  induction assignments generalizing sh with
  | nil => simp only [List.foldl_nil, List.not_mem_nil, false_implies, implies_true, and_true]
  | cons a rest ih =>
      rw [List.foldl_cons, ih, wellNamed_setVariable, and_assoc]
      simp only [List.mem_cons, forall_eq_or_imp]

/-- A new shell has no aliases, and its variables have variable names. -/
theorem wellNamed_start (settings : ShellSettings) : (Shell.start settings).WellNamed d := by
  intro who name hname
  cases d with
  | aliases =>
      cases who <;> exact absurd hname List.not_mem_nil
  | environment =>
      have hstandard : ∀ name ∈ Fields.names (Profiles.standard.get who).environment,
          Text.isIdentifier name.toList = true := by
        cases who <;> decide
      exact hstandard name hname

/-! ### Aliases at work -/

/-- Where an alias is the first word of a line, its value takes its place. -/
theorem expandAlias_append (name value rest : String) (hname : Text.IsWord name.toList)
    (hvalue : Fields.get? sh.profile.aliases name = some value)
    (hrest : ∀ ch ∈ rest.toList.head?, Text.isBlank ch = true) :
    sh.expandAlias (name ++ rest) = value ++ rest := by
  rcases Text.headWord_append_rest name.toList rest.toList hname hrest with ⟨hhead, hafter⟩
  simp only [expandAlias, String.toList_append, hhead, hafter, String.ofList_toList, hvalue,
    hname.isEmpty, Bool.false_eq_true, if_false]

/-- Aliases can be used exactly if their names are of use. -/
theorem aliasesUsable_iff : sh.AliasesUsable ↔ sh.WellNamed .aliases := by
  constructor
  · intro h who name hname
    rcases (Fields.mem_names_iff _ name).mp hname with ⟨value, hvalue⟩
    exact (h who name value hvalue).1
  · intro h who name value hvalue
    have hname : Text.IsWord name.toList :=
      h who name ((Fields.mem_names_iff _ name).mpr ⟨value, hvalue⟩)
    exact ⟨hname, fun rest => expandAlias_append { sh with active := who } name value rest hname
      hvalue⟩

end Shell

end SimTerm
