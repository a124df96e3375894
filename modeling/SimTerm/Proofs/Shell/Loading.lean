import SimTerm.Proofs.Fields
import SimTerm.Proofs.Path
import SimTerm.Proofs.Shell.RcLine
import SimTerm.Shell

/-!
# Reading a Shell Configuration

A shell configuration is read line by line, and a line is read as if it were a
whole configuration.

So nothing that stands in one line bears on how another one is taken, and two
configurations can be put together into one with a line break between them
(`load_append`). A line stores one definition, or it does nothing
(`stores_of_definition?`, `loadLines_singleton_other`). Which definition that is
does not depend on the shell: `stored?` takes the line alone. What has been
counted is then how many lines store a definition of each kind
(`count_ofLines`).

`Stores` says what it is to store a definition: one entry of one table of the
active profile, and nothing else in the shell.

## Main definitions

* `DefinitionKind`: The three tables that lines write in.
* `Definition`: An entry for one of these tables.
* `stored?`: The definition that a line stores.
* `Shell.Stores`: The step of a shell that stores a definition.

## Theorems

* `stored?_eq_none`: Lines that store nothing.
* `nameAndValue_of_stored?`: What names and values are like.
* `load_append`: Two configurations as one.
* `load_lines`: A configuration as its lines.
* `get?_load`: Where the entries of a table come from.
* `load_line_by_line`: All of it.
-/

namespace SimTerm

/-- The tables of a profile that lines of a configuration write in. -/
inductive DefinitionKind where
  /-- The aliases. -/
  | aliases
  /-- The functions. -/
  | functions
  /-- The variables. -/
  | environment
deriving Repr, DecidableEq

namespace DefinitionKind

/-- The table of a profile. -/
def table : DefinitionKind → Profile → Table
  | .aliases => Profile.aliases
  | .functions => Profile.functions
  | .environment => Profile.environment

/-- The number of lines that were counted for it. -/
def count : DefinitionKind → LoadCount → Nat
  | .aliases => LoadCount.aliases
  | .functions => LoadCount.functions
  | .environment => LoadCount.assignments

end DefinitionKind

/-- An entry for one of the tables. -/
structure Definition where
  /-- The table. -/
  kind : DefinitionKind
  /-- The name of the entry. -/
  name : String
  /-- The value under that name. -/
  value : String
deriving Repr, DecidableEq

/-- The definition that a line was read as. -/
def RcLine.definition? : RcLine → Option Definition
  | .other => none
  | .aliasLine name value => some ⟨.aliases, String.ofList name, String.ofList value⟩
  | .functionLine name line => some ⟨.functions, String.ofList name, String.ofList line⟩
  | .variableLine name value => some ⟨.environment, String.ofList name, String.ofList value⟩

/-- The definition that a line stores. -/
def stored? (line : String) : Option Definition := (RcLine.ofText line.toList).definition?

/-- The lines of a text. -/
def linesOf (text : String) : List String := (text.toList.splitOn '\n').map String.ofList

/-! ### Definitions -/

/-- A blank line, a comment and a line that has no form store nothing. -/
theorem stored?_eq_none (line : String)
    (h : Text.trim line.toList = [] ∨ (Text.trim line.toList).head? = some '#' ∨
      ∀ r, ¬ RcLine.Written (Text.trim line.toList) r) : stored? line = none := by
  have hother : RcLine.ofText line.toList = .other := by
    rw [RcLine.ofText]
    rcases h with hblank | hcomment | hform
    · exact RcLine.ofTrimmed_other _ (.inl hblank)
    · exact RcLine.ofTrimmed_other _ (.inr hcomment)
    · exact (RcLine.ofTrimmed_written _).resolve_right (hform _)
  rw [stored?, hother, RcLine.definition?]

/-- A stored alias has a word for a name and something without quotes for a
    value, a stored variable has a variable name and no quotes either. -/
theorem nameAndValue_of_stored? (line : String) (d : Definition) (h : stored? line = some d) :
    (d.kind = .aliases → Text.IsWord d.name.toList ∧ d.value ≠ "" ∧
      ∀ c ∈ d.value.toList, RcLine.isQuote c = false) ∧
    (d.kind = .environment → Text.isIdentifier d.name.toList = true ∧
      ∀ c ∈ d.value.toList, RcLine.isQuote c = false) := by
  have hwritten := RcLine.written_of_ofText line.toList _ rfl
  rw [stored?] at h
  cases hline : RcLine.ofText line.toList with
  | other =>
      rw [hline, RcLine.definition?] at h
      exact absurd h (by simp only [reduceCtorEq, not_false_eq_true])
  | aliasLine name value =>
      rw [hline] at h hwritten
      rw [← Option.some.inj h]
      refine ⟨fun _ => ?_, fun hkind => (nomatch hkind)⟩
      cases hwritten (by simp only [ne_eq, reduceCtorEq, not_false_eq_true]) with
      | aliasLine name text hform hvalue =>
          rw [String.toList_ofList, String.toList_ofList, ne_eq, String.ofList_eq_empty_iff]
          exact ⟨hform.isWord, hvalue, RcLine.unquote_quoteless text⟩
  | functionLine name line =>
      rw [hline] at h
      rw [← Option.some.inj h]
      exact ⟨fun hkind => (nomatch hkind), fun hkind => (nomatch hkind)⟩
  | variableLine name value =>
      rw [hline] at h hwritten
      rw [← Option.some.inj h]
      refine ⟨fun hkind => (nomatch hkind), fun _ => ?_⟩
      cases hwritten (by simp only [ne_eq, reduceCtorEq, not_false_eq_true]) with
      | variableLine name text hform =>
          rw [String.toList_ofList, String.toList_ofList]
          exact ⟨hform.isIdentifier, RcLine.unquote_quoteless text⟩

/-- A keyword anywhere in the line comes before an equals sign. -/
example : stored? "A=1; function f" = some ⟨.functions, "f", "A=1; function f"⟩ := by rfl

/-- What is counted for a kind are the lines that were read as a definition of
    that kind. -/
theorem count_ofLines (kind : DefinitionKind) (lines : List RcLine) :
    kind.count (LoadCount.ofLines lines) =
      lines.countP (fun r => r.definition?.any (fun d => d.kind == kind)) := by
  cases kind with
  | aliases => exact List.countP_congr fun r _ => by cases r <;> exact Iff.rfl
  | functions => exact List.countP_congr fun r _ => by cases r <;> exact Iff.rfl
  | environment => exact List.countP_congr fun r _ => by cases r <;> exact Iff.rfl

/-! ### Profiles -/

/-- A definition goes to the table of its kind. -/
theorem table_apply (kind : DefinitionKind) (p : Profile) (r : RcLine) :
    kind.table (p.apply r) =
      match r.definition? with
      | some d => if d.kind = kind then Fields.set (kind.table p) d.name d.value else kind.table p
      | none => kind.table p := by
  cases kind <;> cases r <;> rfl

/-- What is found in a table after some lines was there before or was read in
    one of them. -/
theorem get?_foldl_apply (kind : DefinitionKind) (lines : List RcLine) (p : Profile)
    (name value : String) (h : Fields.get? (kind.table (lines.foldl Profile.apply p)) name = some value) :
    Fields.get? (kind.table p) name = some value ∨
      ∃ r ∈ lines, r.definition? = some ⟨kind, name, value⟩ := by
  induction lines generalizing p with
  | nil => exact .inl h
  | cons r rest ih =>
      rcases ih (p.apply r) h with hfirst | ⟨r', hr', hdefinition⟩
      · rw [table_apply] at hfirst
        split at hfirst
        case h_1 d hd =>
          by_cases hkind : d.kind = kind
          · rw [if_pos hkind, Fields.get?_set] at hfirst
            by_cases hname : d.name = name
            · rw [if_pos hname, Option.some.injEq] at hfirst
              refine .inr ⟨r, List.mem_cons_self, ?_⟩
              rw [hd, ← hkind, ← hname, ← hfirst]
            · rw [if_neg hname] at hfirst
              exact .inl hfirst
          · rw [if_neg hkind] at hfirst
            exact .inl hfirst
        case h_2 => exact .inl hfirst
      · exact .inr ⟨r', List.mem_cons_of_mem _ hr', hdefinition⟩

namespace Shell

/-- A step of a shell that stores a definition and does nothing else. -/
structure Stores (d : Definition) (sh sh' : Shell) : Prop where
  /-- Its table has the entry: in the place of one with its name, or at the end. -/
  table : d.kind.table sh'.profile = Fields.set (d.kind.table sh.profile) d.name d.value
  /-- The other tables are as before. -/
  others : ∀ kind, kind ≠ d.kind → kind.table sh'.profile = kind.table sh.profile
  /-- So is all else but the tables of the active profile. -/
  rest : sh' = sh.modify (fun p => { p with
    aliases := sh'.profile.aliases
    functions := sh'.profile.functions
    environment := sh'.profile.environment })

/-! ### Changes of the active profile -/

@[simp] theorem profile_modify (sh : Shell) (f : Profile → Profile) :
    (sh.modify f).profile = f sh.profile := by
  rw [profile, modify, Profiles.get_set]

/-- Two changes of the active profile are one. -/
theorem modify_modify (sh : Shell) (f g : Profile → Profile) :
    (sh.modify f).modify g = sh.modify (fun p => g (f p)) := by
  have hset : ∀ (ps : Profiles) who p q, (ps.set who p).set who q = ps.set who q := by
    intro ps who p q
    cases who <;> rfl
  rw [modify, profile_modify, modify, hset]
  rfl

theorem modify_id (sh : Shell) : sh.modify (fun p => p) = sh := by
  have hset : ∀ (ps : Profiles) who, ps.set who (ps.get who) = ps := by
    intro ps who
    cases who <;> rfl
  rw [modify, profile, hset]

theorem loadLines_append (sh : Shell) (ls ms : List RcLine) :
    sh.loadLines (ls ++ ms) = (sh.loadLines ls).loadLines ms := by
  simp only [loadLines, modify_modify, List.foldl_append]

/-- A line that was read as nothing leaves the shell as it is. -/
theorem loadLines_singleton_other (sh : Shell) (r : RcLine) (h : r.definition? = none) :
    sh.loadLines [r] = sh := by
  cases r with
  | other => exact sh.modify_id
  | aliasLine => exact absurd h (by simp only [RcLine.definition?, reduceCtorEq, not_false_eq_true])
  | functionLine => exact absurd h (by simp only [RcLine.definition?, reduceCtorEq, not_false_eq_true])
  | variableLine => exact absurd h (by simp only [RcLine.definition?, reduceCtorEq, not_false_eq_true])

/-- A line that was read as a definition stores it. -/
theorem stores_of_definition? (sh : Shell) (r : RcLine) (d : Definition)
    (h : r.definition? = some d) : Stores d sh (sh.loadLines [r]) := by
  have hprofile : (sh.loadLines [r]).profile = sh.profile.apply r := profile_modify sh _
  refine ⟨?_, fun kind hkind => ?_, ?_⟩
  · rw [hprofile, table_apply, h]
    exact if_pos rfl
  · rw [hprofile, table_apply, h]
    exact if_neg (Ne.symm hkind)
  · rw [hprofile, loadLines]
    cases r <;> rfl

/-! ### Texts -/

theorem ofLines_append (a b : String) :
    RcLine.ofLines (a ++ "\n" ++ b) = RcLine.ofLines a ++ RcLine.ofLines b := by
  have htext : (a ++ "\n" ++ b).toList = a.toList ++ '\n' :: b.toList := by
    rw [String.toList_append, String.toList_append, List.append_assoc]
    rfl
  rw [RcLine.ofLines, htext, List.splitOn_append_cons_self, List.map_append, RcLine.ofLines,
    RcLine.ofLines]

theorem ofLines_linesOf (text : String) :
    RcLine.ofLines text = (linesOf text).map (fun line => RcLine.ofText line.toList) := by
  rw [RcLine.ofLines, linesOf, List.map_map]
  exact List.map_congr_left fun cs _ => by rw [Function.comp_apply, String.toList_ofList]

theorem not_mem_of_mem_linesOf (text line : String) (h : line ∈ linesOf text) :
    '\n' ∉ line.toList := by
  rcases List.mem_map.mp h with ⟨cs, hcs, rfl⟩
  rw [String.toList_ofList]
  exact Path.not_mem_of_mem_splitOn '\n' text.toList cs hcs

/-- A text without line breaks is one line. -/
theorem load_line (sh : Shell) (line : String) (h : '\n' ∉ line.toList) :
    (sh.load line).value.2 = sh.loadLines [RcLine.ofText line.toList] := by
  have hline : RcLine.ofLines line = [RcLine.ofText line.toList] := by
    rw [RcLine.ofLines, List.splitOn_eq_singleton h, List.map_singleton]
  rw [load, hline]

/-- Two configurations with a line break between them are read one after the
    other, and what is counted in them adds up. -/
theorem load_append (sh : Shell) (a b : String) :
    (sh.load (a ++ "\n" ++ b)).value.2 = ((sh.load a).value.2.load b).value.2 ∧
      ∀ kind : DefinitionKind, kind.count (sh.load (a ++ "\n" ++ b)).value.1 =
        kind.count (sh.load a).value.1 + kind.count ((sh.load a).value.2.load b).value.1 := by
  refine ⟨?_, fun kind => ?_⟩
  · simp only [load, ofLines_append, loadLines_append]
  · simp only [load, ofLines_append, count_ofLines, List.countP_append]

/-- A configuration is its lines, read one after the other, and what is counted
    are the lines that store something. -/
theorem load_lines (sh : Shell) (text : String) :
    (sh.load text).value.2 = (linesOf text).foldl (fun sh line => (sh.load line).value.2) sh ∧
      ∀ kind : DefinitionKind, kind.count (sh.load text).value.1 =
        (linesOf text).countP (fun line => (stored? line).any (fun d => d.kind == kind)) := by
  refine ⟨?_, fun kind => ?_⟩
  · have hfold : ∀ (lines : List String) (sh : Shell), (∀ line ∈ lines, '\n' ∉ line.toList) →
        sh.loadLines (lines.map (fun line => RcLine.ofText line.toList)) =
          lines.foldl (fun sh line => (sh.load line).value.2) sh := by
      intro lines
      induction lines with
      | nil => exact fun sh _ => sh.modify_id
      | cons line rest ih =>
          intro sh h
          rw [List.map_cons, ← List.singleton_append, loadLines_append, List.foldl_cons,
            load_line sh line (h line List.mem_cons_self)]
          exact ih _ fun other hother => h other (List.mem_cons_of_mem _ hother)
    rw [load, ofLines_linesOf]
    exact hfold (linesOf text) sh (not_mem_of_mem_linesOf text)
  · rw [load, count_ofLines, ofLines_linesOf, List.countP_map]
    rfl

/-- An entry of a table that a configuration leaves was there before, or a line
    of the configuration stores it. -/
theorem get?_load (sh : Shell) (text : String) (kind : DefinitionKind) (name value : String)
    (h : Fields.get? (kind.table (sh.load text).value.2.profile) name = some value) :
    Fields.get? (kind.table sh.profile) name = some value ∨
      ∃ line ∈ linesOf text, stored? line = some ⟨kind, name, value⟩ := by
  rw [load, loadLines, profile_modify, ofLines_linesOf] at h
  rcases get?_foldl_apply kind _ _ name value h with hold | ⟨r, hr, hdefinition⟩
  · exact .inl hold
  · rcases List.mem_map.mp hr with ⟨line, hline, rfl⟩
    exact .inr ⟨line, hline, hdefinition⟩

/-- A configuration is read line by line. Two of them with a line break between
    them are read one after the other, and so are the lines of one; what is
    counted adds up, and it is the number of lines that store a definition of
    each kind. A line stores one definition or does nothing, and a blank line, a
    comment and a line that has no form do nothing. Aliases are stored under
    words with something for a value, variables under variable names, both
    without quotes, and the tables get no other entries. -/
theorem load_line_by_line :
    (∀ (sh : Shell) (a b : String),
      (sh.load (a ++ "\n" ++ b)).value.2 = ((sh.load a).value.2.load b).value.2 ∧
      ∀ kind : DefinitionKind, kind.count (sh.load (a ++ "\n" ++ b)).value.1 =
        kind.count (sh.load a).value.1 + kind.count ((sh.load a).value.2.load b).value.1) ∧
    (∀ (sh : Shell) (text : String),
      (sh.load text).value.2 = (linesOf text).foldl (fun sh line => (sh.load line).value.2) sh ∧
      ∀ kind : DefinitionKind, kind.count (sh.load text).value.1 =
        (linesOf text).countP (fun line => (stored? line).any (fun d => d.kind == kind))) ∧
    (∀ (sh : Shell) (line : String), '\n' ∉ line.toList →
      (∀ d, stored? line = some d → Stores d sh (sh.load line).value.2) ∧
      (stored? line = none → (sh.load line).value.2 = sh)) ∧
    (∀ line : String, (Text.trim line.toList = [] ∨ (Text.trim line.toList).head? = some '#' ∨
      ∀ r, ¬ RcLine.Written (Text.trim line.toList) r) → stored? line = none) ∧
    (∀ (line : String) (d : Definition), stored? line = some d →
      (d.kind = .aliases → Text.IsWord d.name.toList ∧ d.value ≠ "" ∧
        ∀ c ∈ d.value.toList, RcLine.isQuote c = false) ∧
      (d.kind = .environment → Text.isIdentifier d.name.toList = true ∧
        ∀ c ∈ d.value.toList, RcLine.isQuote c = false)) ∧
    (∀ (sh : Shell) (text : String) (kind : DefinitionKind) (name value : String),
      Fields.get? (kind.table (sh.load text).value.2.profile) name = some value →
        Fields.get? (kind.table sh.profile) name = some value ∨
          ∃ line ∈ linesOf text, stored? line = some ⟨kind, name, value⟩) := by
  refine ⟨load_append, load_lines, fun sh line h => ?_, stored?_eq_none, nameAndValue_of_stored?,
    get?_load⟩
  rw [load_line sh line h]
  exact ⟨fun d hd => stores_of_definition? sh _ d hd, fun hd => loadLines_singleton_other sh _ hd⟩

/-- A line that defines an alias for a new shell, and one with a comment. -/
theorem load_line_by_line_alias :
    '\n' ∉ "Set-Alias ll 'ls -l'".toList ∧
      stored? "Set-Alias ll 'ls -l'" = some ⟨.aliases, "ll", "ls -l"⟩ ∧
      Stores ⟨.aliases, "ll", "ls -l"⟩ (start {}) ((start {}).load "Set-Alias ll 'ls -l'").value.2 ∧
      Text.IsWord "ll".toList ∧ (Text.trim "  # A=1".toList).head? = some '#' ∧
      stored? "  # A=1" = none ∧
      Fields.get? ((start {}).load "Set-Alias ll 'ls -l'").value.2.profile.aliases "ll" =
        some "ls -l" ∧
      ∃ line ∈ linesOf "Set-Alias ll 'ls -l'", stored? line = some ⟨.aliases, "ll", "ls -l"⟩ := by
  have hline : '\n' ∉ "Set-Alias ll 'ls -l'".toList := by decide
  have hstored : stored? "Set-Alias ll 'ls -l'" = some ⟨.aliases, "ll", "ls -l"⟩ := by rfl
  have hcomment : (Text.trim "  # A=1".toList).head? = some '#' := by rfl
  have hfound : Fields.get? ((start {}).load "Set-Alias ll 'ls -l'").value.2.profile.aliases "ll" =
      some "ls -l" := by rfl
  rcases load_line_by_line with ⟨_, _, hone, hnone, hlike, hfrom⟩
  refine ⟨hline, hstored, (hone _ _ hline).1 _ hstored, ((hlike _ _ hstored).1 rfl).1, hcomment,
    hnone _ (.inr (.inl hcomment)), hfound, ?_⟩
  -- A new shell has no aliases, so the entry comes from the line.
  refine (hfrom _ _ .aliases "ll" "ls -l" hfound).resolve_left ?_
  exact fun hold => absurd hold (by decide)

end Shell

end SimTerm
