import SimTerm.Proofs.Session.Listing
import SimTerm.Proofs.Shell.Assignment

/-!
# Reading Back the List of Variables

The list of the variables as a configuration.

The `env` command shows each variable as a line that would set it, and nothing
is changed in such a line if the keyword `export` is put in front. A line has no
quotes, so the value has to be told from the line as it stands. It must not
begin or end with blanks, which would be trimmed, and it must not have quotes or
line breaks in it.

The scanner reads such a line as the assignment that it is, with one exception.
It looks for the keyword of functions in the whole line before it looks for
assignments. If the value announces a function, the line is stored as that
function, and the variable is lost. So the table that is read back has the other
variables (`load_variables`), and it is the table that was shown exactly if no
value announces a function (`listing_reads_back_iff`).

## Main definitions

* `variableText`, `variableTexts`: What is shown for a variable and for a table,
  with the keyword or without.
* `IsPlain`: A variable with a name and a value that its line does not change.
* `IsShowable`: A table of such variables.
* `announcement?`: The function that is stored instead of a variable.

## Theorems

* `ofText_variableText`: How the scanner reads a line of the list.
* `load_variables`: What comes of the whole list.
* `listing_reads_back_iff`: When that is the table.
-/

namespace SimTerm

/-- The line that sets a variable, with the keyword in front or without. -/
def variableText (exported : Bool) (v : String × String) : String :=
  (if exported then "export " else "") ++ (v.1 ++ "=" ++ v.2)

/-- The lines that set the variables of a table, each with the keyword or
    without. -/
def variableTexts (exported : String × String → Bool) (table : Table) : List String :=
  table.map (fun v => variableText (exported v) v)

/-- A variable with a name and a value that its line does not change. -/
structure IsPlain (v : String × String) : Prop where
  /-- The name is an identifier. -/
  isIdentifier : Text.isIdentifier v.1.toList = true
  /-- There are no blanks around the value. -/
  trimmed : Text.trim v.2.toList = v.2.toList
  /-- No quote is in it. -/
  quoteless : ∀ c ∈ v.2.toList, RcLine.isQuote c = false
  /-- No line break is in it. -/
  unbroken : '\n' ∉ v.2.toList

/-- A table of such variables. -/
structure IsShowable (table : Table) : Prop where
  /-- No name stands in it twice. -/
  nodup : (Fields.names table).Nodup
  /-- All variables are plain. -/
  isPlain : ∀ v ∈ table, IsPlain v

/-- The function that is stored instead of a variable: its name and the line. -/
def announcement? (exported : Bool) (v : String × String) : Option (String × String) :=
  (RcLine.announcedFunction? false v.2.toList).map
    (fun name => (String.ofList name, variableText exported v))

/-- What the scanner reads in the line of a variable. -/
def readingOf (exported : Bool) (v : String × String) : RcLine :=
  match announcement? exported v with
  | some f => .functionLine f.1.toList f.2.toList
  | none => .variableLine v.1.toList v.2.toList

theorem announcement?_eq_none_iff (exported : Bool) (v : String × String) :
    announcement? exported v = none ↔ ¬ RcLine.Announces v.2.toList := by
  rw [RcLine.announces_iff, announcement?, Option.map_eq_none_iff,
    Option.eq_none_iff_forall_ne_some, not_exists]

theorem announces_of_announcement? (exported : Bool) (v f : String × String)
    (h : announcement? exported v = some f) : RcLine.Announces v.2.toList := by
  by_contra hkept
  rw [(announcement?_eq_none_iff exported v).mpr hkept] at h
  exact absurd h.symm (Option.some_ne_none f)

/-! ### One line -/

theorem toList_variableText (exported : Bool) (v : String × String) :
    (variableText exported v).toList = RcLine.assignment exported v.1.toList v.2.toList := by
  have hplain : (v.1 ++ "=" ++ v.2).toList = v.1.toList ++ '=' :: v.2.toList := by
    rw [String.toList_append, String.toList_append, List.append_assoc]
    rfl
  rw [variableText, String.toList_append, hplain, RcLine.assignment]
  cases exported <;> rfl

variable (v : String × String) (h : IsPlain v)

include h

theorem IsPlain.unquote : RcLine.unquote v.2.toList = v.2.toList := by
  rw [RcLine.unquote, h.trimmed, List.filter_eq_self]
  exact fun c hc => by rw [h.quoteless c hc]; rfl

/-- The scanner reads the line of a variable as the function that its value
    announces, or else as that variable. -/
theorem ofText_variableText (exported : Bool) :
    RcLine.ofText (variableText exported v).toList = readingOf exported v := by
  have hlast : ∀ c ∈ v.2.toList.getLast?, Text.isBlank c = false := by
    by_cases hnil : Text.trim v.2.toList = []
    · rw [← h.trimmed, hnil]
      exact fun c hc => absurd hc (Option.not_mem_none c)
    · rw [← h.trimmed]
      exact (Text.isPhrase_trim _ hnil).last
  have hline := toList_variableText exported v
  rw [hline, RcLine.ofText_assignment exported _ _ h.isIdentifier hlast, readingOf, announcement?,
    h.unquote]
  cases RcLine.announcedFunction? false v.2.toList with
  | some name =>
      dsimp only [Option.map_some]
      rw [String.toList_ofList, hline]
  | none => rfl

theorem IsPlain.not_mem_variableText (exported : Bool) :
    '\n' ∉ (variableText exported v).toList := by
  have hname : '\n' ∉ v.1.toList := fun hmem =>
    absurd ((Text.isWord_of_isIdentifier _ h.isIdentifier).solid _ hmem) (by decide)
  have hplain : '\n' ∉ v.1.toList ++ '=' :: v.2.toList := by
    rw [List.mem_append, List.mem_cons, not_or, not_or]
    exact ⟨hname, by decide, h.unbroken⟩
  rw [toList_variableText, RcLine.assignment]
  cases exported with
  | false => exact hplain
  | true =>
      rw [if_pos rfl, List.mem_append, List.mem_cons, not_or, not_or]
      exact ⟨by decide, by decide, hplain⟩

omit h

/-! ### Lists -/

/-- The lines of a list are stored one after the other, in one table or the
    other. -/
theorem foldl_apply_readings (exported : String × String → Bool) (table : Table) (p : Profile) :
    (table.map (fun v => readingOf (exported v) v)).foldl Profile.apply p =
      { p with
        functions := (table.filterMap (fun v => announcement? (exported v) v)).foldl
          (fun fields f => Fields.set fields f.1 f.2) p.functions
        environment := (table.filter (fun v => ¬ RcLine.Announces v.2.toList)).foldl
          (fun fields v => Fields.set fields v.1 v.2) p.environment } := by
  induction table generalizing p with
  | nil => rfl
  | cons v rest ih =>
      rw [List.map_cons, List.foldl_cons, ih, readingOf, List.filterMap_cons, List.filter_cons]
      cases hfound : announcement? (exported v) v with
      | some f =>
          have hlost := announces_of_announcement? (exported v) v f hfound
          rw [if_neg (fun hkept => not_not.mpr hlost (of_decide_eq_true hkept)), List.foldl_cons]
          simp only [Profile.apply, String.ofList_toList]
      | none =>
          have hkept := (announcement?_eq_none_iff (exported v) v).mp hfound
          rw [if_pos (decide_eq_true hkept), List.foldl_cons]
          simp only [Profile.apply, String.ofList_toList]

/-- What is counted in the lines of a list. -/
theorem count_readings (exported : String × String → Bool) (table : Table) :
    LoadCount.ofLines (table.map (fun v => readingOf (exported v) v)) =
      ⟨0, (table.filter (fun v => ¬ RcLine.Announces v.2.toList)).length,
        (table.filter (fun v => RcLine.Announces v.2.toList)).length⟩ := by
  have hkind : ∀ v : String × String, (readingOf (exported v) v).isAlias = false ∧
      (readingOf (exported v) v).isVariable = decide (¬ RcLine.Announces v.2.toList) ∧
      (readingOf (exported v) v).isFunction = decide (RcLine.Announces v.2.toList) := by
    intro v
    rw [readingOf]
    cases hfound : announcement? (exported v) v with
    | some f =>
        have hlost := announces_of_announcement? (exported v) v f hfound
        rw [decide_eq_false (not_not.mpr hlost), decide_eq_true hlost]
        exact ⟨rfl, rfl, rfl⟩
    | none =>
        have hkept := (announcement?_eq_none_iff (exported v) v).mp hfound
        rw [decide_eq_true hkept, decide_eq_false hkept]
        exact ⟨rfl, rfl, rfl⟩
  simp only [LoadCount.ofLines, List.countP_map, LoadCount.mk.injEq, ← List.countP_eq_length_filter]
  refine ⟨List.countP_eq_zero.mpr fun v _ => ?_, List.countP_congr fun v _ => ?_,
    List.countP_congr fun v _ => ?_⟩
  · rw [Function.comp_apply, (hkind v).1]
    exact Bool.false_ne_true
  · rw [Function.comp_apply, (hkind v).2.1]
  · rw [Function.comp_apply, (hkind v).2.2]

/-- The list of a table, loaded where there are no variables, makes the table
    without the variables whose values announce functions. Those are stored as
    functions, each with its line. -/
theorem load_variables (exported : String × String → Bool) (table : Table)
    (h : IsShowable table) (sh : Shell) (hnone : sh.profile.environment = []) :
    (sh.load (String.intercalate "\n" (variableTexts exported table))).value =
      (⟨0, (table.filter (fun v => ¬ RcLine.Announces v.2.toList)).length,
          (table.filter (fun v => RcLine.Announces v.2.toList)).length⟩,
        sh.modify (fun p => { p with
          functions := (table.filterMap (fun v => announcement? (exported v) v)).foldl
            (fun fields f => Fields.set fields f.1 f.2) p.functions
          environment := table.filter (fun v => ¬ RcLine.Announces v.2.toList) })) := by
  have hread : (variableTexts exported table).map (fun line => RcLine.ofText line.toList) =
      table.map (fun v => readingOf (exported v) v) := by
    rw [variableTexts, List.map_map]
    refine List.map_congr_left fun v hv => ?_
    rw [Function.comp_apply, ofText_variableText v (h.isPlain v hv)]
  have hunbroken : ∀ line ∈ variableTexts exported table, '\n' ∉ line.toList :=
    List.forall_mem_map.mpr fun v hv => (h.isPlain v hv).not_mem_variableText v (exported v)
  have hnodup : (Fields.names (table.filter
      (fun v => ¬ RcLine.Announces v.2.toList))).Nodup :=
    h.nodup.sublist (List.filter_sublist.map Prod.fst)
  rw [load_intercalate sh _ hunbroken, hread, count_readings, Shell.loadLines, Shell.modify,
    foldl_apply_readings, hnone,
    Fields.foldl_set_of_nodup _ [] (fun v _ => List.not_mem_nil) hnodup, List.nil_append]
  rfl

namespace Session

/-- When the list of a table of variables can be read back. The `env` command
    shows it and changes nothing. Where there are no variables, its lines, each
    with the keyword `export` in front or without, set those whose values do not
    announce a function and no others, and define no alias. So they make the
    same table in the same order and nothing else, each of them counted as a
    variable, exactly if no value announces a function. -/
theorem listing_reads_back_iff (table : Table) (h : IsShowable table) :
    (∀ (now : Moment) (s : Session) (c : Command), s.shell.profile.environment = table →
      perform now .showVariables c s = s.answer (variableTexts (fun _ => false) table)) ∧
    ∀ (exported : String × String → Bool) (sh : Shell), sh.profile.environment = [] →
      let kept := table.filter (fun v => ¬ RcLine.Announces v.2.toList)
      let loaded := (sh.load (String.intercalate "\n" (variableTexts exported table))).value
      (loaded.2.profile.environment = kept ∧ loaded.2.profile.aliases = sh.profile.aliases ∧
        loaded.1.aliases = 0 ∧ loaded.1.assignments = kept.length) ∧
      (loaded = (⟨0, table.length, 0⟩, sh.modify (fun p => { p with environment := table })) ↔
        ∀ v ∈ table, ¬ RcLine.Announces v.2.toList) := by
  refine ⟨fun now s c htable => ?_, fun exported sh hnone => ?_⟩
  · have hlines : variableTexts (fun _ => false) table =
        table.map (fun v => v.1 ++ "=" ++ v.2) := by
      refine List.map_congr_left fun v _ => ?_
      rw [variableText, if_neg Bool.false_ne_true, String.empty_append]
    rw [hlines, ← htable]
    rfl
  · intro kept loaded
    have hloaded : loaded = _ := load_variables exported table h sh hnone
    refine ⟨?_, fun hall => ?_, fun hall => ?_⟩
    · rw [hloaded, Shell.profile_modify]
      exact ⟨rfl, rfl, rfl, rfl⟩
    · -- A value that announces a function is counted as one.
      rw [hloaded] at hall
      have hcount := congrArg (fun r => r.1.functions) hall
      rw [List.length_eq_zero_iff, List.filter_eq_nil_iff] at hcount
      exact fun v hv hlost => hcount v hv (decide_eq_true hlost)
    · have hkept : table.filter (fun v => ¬ RcLine.Announces v.2.toList) = table :=
        List.filter_eq_self.mpr fun v hv => decide_eq_true (hall v hv)
      have hlost : table.filter (fun v => RcLine.Announces v.2.toList) = [] :=
        List.filter_eq_nil_iff.mpr fun v hv hfound => hall v hv (of_decide_eq_true hfound)
      have hfunctions : table.filterMap (fun v => announcement? (exported v) v) = [] :=
        List.filterMap_eq_nil_iff.mpr fun v hv =>
          (announcement?_eq_none_iff (exported v) v).mpr (hall v hv)
      rw [hloaded, hkept, hlost, hfunctions]
      rfl

/-- Variables whose names and values look like something else in places. -/
def disguised : Table := [("alias", "a = b"), ("_f1", "my function() #"), ("EMPTY", "")]

/-- Their list, shown and loaded, one line with the keyword in front. -/
theorem listing_reads_back_disguised :
    let bare := untouched.shell.modify (fun p => { p with environment := [] })
    let shown := untouched.withShell (bare.modify (fun p => { p with environment := disguised }))
    IsShowable disguised ∧ bare.profile.environment = [] ∧
      (∀ v ∈ disguised, ¬ RcLine.Announces v.2.toList) ∧
      perform noon .showVariables (Command.parse "env") shown =
        shown.answer ["alias=a = b", "_f1=my function() #", "EMPTY="] ∧
      (bare.load "alias=a = b\nexport _f1=my function() #\nEMPTY=").value =
        (⟨0, 3, 0⟩, shown.shell) := by
  intro bare shown
  have hshowable : IsShowable disguised := by
    refine ⟨by decide, List.forall_mem_cons.mpr ⟨?_, List.forall_mem_cons.mpr
      ⟨?_, List.forall_mem_singleton.mpr ?_⟩⟩⟩
    all_goals
      refine ⟨by decide, by decide, ?_, by decide⟩
      exact fun c hc => Bool.eq_false_iff.mpr (List.any_eq_false.mp (by rfl) c hc)
  have hplain : ∀ v ∈ disguised, ¬ RcLine.Announces v.2.toList := by decide
  have hnone : bare.profile.environment = [] := by rfl
  rcases listing_reads_back_iff disguised hshowable with ⟨hshown, hloaded⟩
  refine ⟨hshowable, hnone, hplain, hshown noon shown _ (by rfl), ?_⟩
  exact ((hloaded (fun v => v.1 == "_f1") bare hnone).2).mpr hplain

/-- A value in which the keyword of functions stands with a name behind it: the
    variable is lost, and a function has come instead. -/
theorem listing_loses_variable :
    let bare := untouched.shell.modify (fun p => { p with environment := [] })
    let table : Table := [("HELP", "function keyword")]
    let loaded := (bare.load (String.intercalate "\n" (variableTexts (fun _ => false) table))).value
    IsShowable table ∧ bare.profile.environment = [] ∧
      variableTexts (fun _ => false) table = ["HELP=function keyword"] ∧
      loaded.1 = ⟨0, 0, 1⟩ ∧ loaded.2.profile.environment = [] ∧
      loaded.2.profile.functions = [("keyword", "HELP=function keyword")] ∧
      loaded ≠ (⟨0, 1, 0⟩, bare.modify (fun p => { p with environment := table })) := by
  intro bare table loaded
  have hshowable : IsShowable table := by
    refine ⟨by decide, List.forall_mem_singleton.mpr ⟨by decide, by decide, ?_, by decide⟩⟩
    exact fun c hc => Bool.eq_false_iff.mpr (List.any_eq_false.mp (by rfl) c hc)
  have htext : String.intercalate "\n" (variableTexts (fun _ => false) table) =
      "HELP=function keyword" := by rfl
  have hloaded : loaded = (bare.load "HELP=function keyword").value := by
    rw [← htext]
  have hcount : loaded.1 = ⟨0, 0, 1⟩ := by
    rw [hloaded]
    rfl
  refine ⟨hshowable, by rfl, by rfl, hcount, ?_, ?_, fun heq => ?_⟩
  · rw [hloaded]
    rfl
  · rw [hloaded]
    rfl
  · rw [heq] at hcount
    exact absurd hcount (by decide)

end Session

end SimTerm
