import SimTerm.Proofs.Session.Call
import SimTerm.Proofs.Session.Opening
import SimTerm.Proofs.Session.Refusal
import SimTerm.Proofs.Shell.Tables

/-!
# Names that Lines Define

Where the names of aliases and variables in a session come from, and when all
of them are of use.

A name gets into a table in three ways. It was there from the start, it was
read from a file, or a line spelled it for the `alias` or the `export` command.
The first two ways bring in names that are of use, whatever the files say. The
third does not look closely enough. An alias must not have a space in it, but
may have any other blank, and for a variable it is enough to have a name at
all. So the tables are what they should be exactly as long as no line spells a
name that slips through (`wellNamed_live_iff`).

`spelled` says which names a command takes from its line. What a command does
to the tables is then told apart by its ending, except for the two commands
that spell, and an induction on what happens to a session gives the law for
every state.

For `export` there is a second question, whether a line with a bad argument is
refused as a whole. It is, but bad is only what has no equals sign, or nothing
in front of it (`refused_export_iff`).

## Main definitions

* `spelled`: The names that a command defines as its line spells them.
* `Happening`: What can happen to a session and the files around it.
* `live`: The session after some happenings.
* `spelledAlong`: The names that lines have spelled on the way.

## Theorems

* `wellNamed_perform`, `wellNamed_undergo`, `wellNamed_live_iff`: When the names
  are of use after a command, after one happening, and after all.
* `refused_export_iff`: When a line that calls `export` is refused.
* `aliases_usable_iff`: When all aliases can be used.
* `variables_named_iff`: When all variables have variable names.
-/

namespace SimTerm

namespace Session

/-- The alias that a line defines for the `alias` command, unless that refuses. -/
def aliasIn? (c : Command) : Option (String × String) :=
  match splitAssignment c.remainder with
  | (_, none) => none
  | (before, some value) =>
    if c.args.isEmpty || (trimmed before).isEmpty || (trimmed before).toList.contains ' ' then none
    else some (trimmed before, stripQuotes (trimmed value))

/-- The variables that a line sets for the `export` command, unless that refuses. -/
def variablesIn (c : Command) : List (String × String) :=
  match assignmentsOf c.args with
  | .ok assignments => assignments
  | .error _ => []

/-- The names that a command puts into a table as its line spells them. -/
def spelled (d : Dictionary) (b : Builtin) (c : Command) : List String :=
  match d, b with
  | .aliases, .aliases => (aliasIn? c).toList.map Prod.fst
  | .environment, .exportVariables => (variablesIn c).map Prod.fst
  | _, _ => []

/-- What can happen to a session and to the files around it. -/
inductive Happening where
  /-- Something is done to the session. -/
  | acted (a : Action)
  /-- The files are exchanged from outside. -/
  | filesReplaced (files : FileSystem)
  /-- A setting in force was replaced. -/
  | settingReplaced (store : ConfigStore)

/-- The session after a happening. -/
def undergo (s : Session) : Happening → Session
  | .acted a => s.act a
  | .filesReplaced files => s.withFiles files
  | .settingReplaced store => s.observe store

/-- The session after some happenings. -/
def live (s : Session) (happenings : List Happening) : Session := happenings.foldl undergo s

/-- The names that a line spells for a table when what it calls is run. -/
def spelledBy (d : Dictionary) : Option (Builtin × Command) → List String
  | some (b, c) => spelled d b c
  | none => []

/-- The names that a happening spells for a table. -/
def spelledIn (d : Dictionary) (s : Session) : Happening → List String
  | .acted (.submit _ raw) => spelledBy d (s.entered? raw)
  | .acted (.dispatch _ raw) => spelledBy d (s.called? raw)
  | _ => []

/-- The names that some happenings spell for a table, each in its turn. -/
def spelledAlong (d : Dictionary) (s : Session) : List Happening → List String
  | [] => []
  | h :: rest => s.spelledIn d h ++ spelledAlong d (s.undergo h) rest

/-! ### One command -/

/-- The session after the `alias` command. -/
theorem aliasCommand_session (s : Session) (c : Command) :
    (s.aliasCommand c).value.2 =
      match aliasIn? c with
      | some (name, value) => s.withShell (s.shell.setAlias name value)
      | none => s := by
  unfold aliasCommand aliasIn?
  rcases splitAssignment c.remainder with ⟨before, _ | value⟩
  · split <;> rfl
  · by_cases hargs : c.args.isEmpty = true
    · simp only [hargs, Bool.true_or, if_true]
      rfl
    · rw [if_neg hargs]
      rw [Bool.not_eq_true] at hargs
      simp only [hargs, Bool.false_or]
      split <;> rfl

/-- The session after the `export` command. -/
theorem exportVariables_session (s : Session) (c : Command) :
    (s.exportVariables c).value.2 =
      s.withShell ((variablesIn c).foldl (fun sh a => sh.setVariable a.1 a.2) s.shell) := by
  unfold exportVariables variablesIn
  by_cases hargs : c.args.isEmpty = true
  · rw [if_pos hargs, List.isEmpty_iff.mp hargs]
    rfl
  · rw [if_neg hargs]
    rcases assignmentsOf c.args with bad | assignments <;> rfl

theorem wellNamed_aliasCommand (d : Dictionary) (c : Command) (s : Session) :
    (s.aliasCommand c).value.2.shell.WellNamed d ↔
      s.shell.WellNamed d ∧ ∀ name ∈ spelled d .aliases c, d.Admits name := by
  rw [aliasCommand_session]
  cases hfound : aliasIn? c with
  | none => cases d <;> simp [spelled, hfound]
  | some a =>
      have hshell : (s.withShell (s.shell.setAlias a.1 a.2)).shell = s.shell.setAlias a.1 a.2 := rfl
      rw [hshell, Shell.wellNamed_setAlias]
      cases d <;> simp [spelled, hfound]

theorem wellNamed_exportVariables (d : Dictionary) (c : Command) (s : Session) :
    (s.exportVariables c).value.2.shell.WellNamed d ↔
      s.shell.WellNamed d ∧ ∀ name ∈ spelled d .exportVariables c, d.Admits name := by
  have hshell : ∀ sh, (s.withShell sh).shell = sh := fun _ => rfl
  rw [exportVariables_session, hshell, Shell.wellNamed_setVariables]
  cases d <;> simp [spelled]

/-- After a command the names are of use if they were before, and if those are
    that the command took from its line. -/
theorem wellNamed_perform (d : Dictionary) (now : Moment) (b : Builtin) (c : Command)
    (s : Session) :
    (s.perform now b c).value.2.shell.WellNamed d ↔
      s.shell.WellNamed d ∧ ∀ name ∈ spelled d b c, d.Admits name := by
  by_cases halias : b = .aliases
  · rw [halias]
    exact wellNamed_aliasCommand d c s
  by_cases hexport : b = .exportVariables
  · rw [hexport]
    exact wellNamed_exportVariables d c s
  -- No other command takes a name from its line, so its ending decides.
  have hnone : spelled d b c = [] := by
    unfold spelled
    split
    · exact absurd rfl halias
    · exact absurd rfl hexport
    · rfl
  have hend := perform_ending now c s b
  generalize (s.perform now b c).value.1 = o at hend
  generalize (s.perform now b c).value.2 = s' at hend ⊢
  rw [hnone]
  simp only [List.not_mem_nil, false_implies, implies_true, and_true]
  cases hend with
  | switched name shell _ _ h => exact Shell.wellNamed_switch? d s.shell name shell h
  | sourced path text _ _ _ => exact Shell.wellNamed_load d s.shell text
  | exported => exact absurd rfl hexport
  | aliased => exact absurd rfl halias
  | _ => rfl

/-! ### One happening -/

/-- After a line the names are of use if they were before, and if those are that
    its call spelled. What counts is the shell that the called command leaves,
    in the session itself or in one with the same shell. -/
theorem wellNamed_line (d : Dictionary) (now : Moment) (call : Option (Builtin × Command))
    (s s' : Session) (shell : Shell) (hsame : s'.shell = s.shell)
    (h : (∃ b c, call = some (b, c) ∧ shell = (s'.perform now b c).value.2.shell) ∨
      (call = none ∧ shell = s.shell)) :
    shell.WellNamed d ↔ s.shell.WellNamed d ∧ ∀ name ∈ spelledBy d call, d.Admits name := by
  rcases h with ⟨b, c, hcall, hshell⟩ | ⟨hcall, hshell⟩
  · rw [hshell, hcall, spelledBy, wellNamed_perform, hsame]
  · rw [hshell, hcall, spelledBy]
    simp only [List.not_mem_nil, false_implies, implies_true, and_true]

theorem wellNamed_submit (d : Dictionary) (now : Moment) (raw : String) (s : Session) :
    (s.submit now raw).value.2.shell.WellNamed d ↔
      s.shell.WellNamed d ∧ ∀ name ∈ spelledBy d (s.entered? raw), d.Admits name :=
  wellNamed_line d now _ s s.ready _ rfl
    (submit_called (fun s => s.shell) (fun _ _ _ _ _ => rfl) now raw s)

theorem wellNamed_dispatch (d : Dictionary) (now : Moment) (raw : String) (s : Session) :
    (s.act (.dispatch now raw)).shell.WellNamed d ↔
      s.shell.WellNamed d ∧ ∀ name ∈ spelledBy d (s.called? raw), d.Admits name :=
  wellNamed_line d now _ s s _ rfl
    (act_dispatch_called (fun s => s.shell) (fun _ _ => rfl) now raw s)

theorem welcome_shell (s : Session) : (s.act .welcome).shell = s.shell := by
  rw [act]
  unfold welcome
  cases s.config.terminal.demand <;> rfl

/-- After a happening the names are of use if they were before, and if those are
    that it spelled. -/
theorem wellNamed_undergo (d : Dictionary) (s : Session) (h : Happening) :
    (s.undergo h).shell.WellNamed d ↔
      s.shell.WellNamed d ∧ ∀ name ∈ s.spelledIn d h, d.Admits name := by
  -- Only lines that are run spell names.
  have hsilent : s.spelledIn d h = [] → (s.undergo h).shell.profiles = s.shell.profiles →
      ((s.undergo h).shell.WellNamed d ↔
        s.shell.WellNamed d ∧ ∀ name ∈ s.spelledIn d h, d.Admits name) := by
    intro hnone hsame
    rw [hnone, Shell.WellNamed, Shell.WellNamed]
    simp [Shell.names, hsame]
  cases h with
  | acted a =>
      cases a with
      | submit now raw =>
          rw [undergo, act, spelledIn]
          exact wellNamed_submit d now raw s
      | dispatch now raw =>
          rw [undergo, spelledIn]
          exact wellNamed_dispatch d now raw s
      | welcome => exact hsilent rfl (by rw [undergo, welcome_shell])
      | render text => exact hsilent rfl rfl
      | recallPrevious => exact hsilent rfl rfl
      | recallNext => exact hsilent rfl rfl
  | filesReplaced files => exact hsilent rfl rfl
  | settingReplaced store =>
      refine hsilent rfl ?_
      rw [undergo, observe]
      split <;> rfl

/-! ### All happenings -/

theorem wellNamed_live (d : Dictionary) (s : Session) (happenings : List Happening) :
    (s.live happenings).shell.WellNamed d ↔
      s.shell.WellNamed d ∧ ∀ name ∈ s.spelledAlong d happenings, d.Admits name := by
  induction happenings generalizing s with
  | nil => simp [live, spelledAlong]
  | cons h rest ih =>
      -- The names that the first happening spells come first.
      rw [live, List.foldl_cons, ← live, ih, wellNamed_undergo, and_assoc, spelledAlong]
      simp only [List.mem_append, or_imp, forall_and]

/-- Whatever happens to a new session, the names in its tables are of use
    exactly if those are that lines have spelled. -/
theorem wellNamed_live_iff (d : Dictionary) (id : String) (c : Config) (isWatching : Bool)
    (now : Moment) (s : Session) (h : ofConfig id c isWatching now = .ok s)
    (happenings : List Happening) :
    (s.live happenings).shell.WellNamed d ↔
      ∀ name ∈ s.spelledAlong d happenings, d.Admits name := by
  rcases ofConfig_eq id c isWatching now s h with ⟨files, shell, kept, remembered, rfl⟩
  rw [wellNamed_live]
  exact and_iff_right (Shell.wellNamed_start d shell)

/-! ### The `alias` command -/

/-- A name that a line defines an alias under has some characters and no space
    among them. -/
theorem mem_spelled_aliases (b : Builtin) (c : Command) (name : String)
    (h : name ∈ spelled .aliases b c) : name.toList ≠ [] ∧ ' ' ∉ name.toList := by
  unfold spelled at h
  split at h
  case h_1 =>
    unfold aliasIn? at h
    split at h
    · exact absurd h List.not_mem_nil
    · split at h
      · exact absurd h List.not_mem_nil
      case isFalse before value _ hgood =>
        rw [Option.toList_some, List.map_singleton, List.mem_singleton] at h
        simp only [Bool.or_eq_true, not_or, List.contains_iff_mem, String.isEmpty_iff] at hgood
        rw [h]
        exact ⟨fun hnil => hgood.1.2 (String.toList_eq_nil_iff.mp hnil), hgood.2⟩
  case h_2 _ _ hd => exact absurd hd (by simp only [reduceCtorEq, not_false_eq_true])
  case h_3 => exact absurd h List.not_mem_nil

theorem mem_spelledAlong_aliases (s : Session) (happenings : List Happening) (name : String)
    (h : name ∈ s.spelledAlong .aliases happenings) : name.toList ≠ [] ∧ ' ' ∉ name.toList := by
  have hline : ∀ call, name ∈ spelledBy .aliases call →
      name.toList ≠ [] ∧ ' ' ∉ name.toList := by
    rintro (_ | ⟨b, c⟩) hname
    · exact absurd hname List.not_mem_nil
    · exact mem_spelled_aliases b c name hname
  induction happenings generalizing s with
  | nil => exact absurd h List.not_mem_nil
  | cons first rest ih =>
      rcases List.mem_append.mp h with hfirst | hrest
      · unfold spelledIn at hfirst
        split at hfirst
        case h_1 now raw => exact hline _ hfirst
        case h_2 now raw => exact hline _ hfirst
        case h_3 => exact absurd hfirst List.not_mem_nil
      · exact ih _ hrest

/-- Whatever happens to a new session, all its aliases can be used exactly if
    no line has defined one under a name with a blank in it. A space cannot be
    that blank. -/
theorem aliases_usable_iff (id : String) (c : Config) (isWatching : Bool) (now : Moment)
    (s : Session) (h : ofConfig id c isWatching now = .ok s) (happenings : List Happening) :
    (s.live happenings).shell.AliasesUsable ↔
      ∀ name ∈ s.spelledAlong .aliases happenings,
        ∀ ch ∈ name.toList, ch ≠ ' ' → Text.isBlank ch = false := by
  rw [Shell.aliasesUsable_iff, wellNamed_live_iff .aliases id c isWatching now s h]
  refine forall₂_congr fun name hname => ?_
  rcases mem_spelledAlong_aliases s happenings name hname with ⟨hne, hspace⟩
  constructor
  · exact fun hword ch hch _ => hword.solid ch hch
  · intro hsolid
    exact ⟨hne, fun ch hch => hsolid ch hch (fun heq => hspace (heq ▸ hch))⟩

/-- A shell configuration that is the only file. -/
def oneFile : FileSystem where
  root := FileSystem.newDirectory {} noon "/"
    [FileSystem.newFile {} noon "rc" "alias ..='cd ..'\nset -x _A 1"]
  cwd := []
  settings := {}

/-- Names from lines for two personas, and from a file that was put there. -/
def mixed : List Happening :=
  [.acted (.submit noon "alias ll=ls -l"), .acted (.submit noon "shell fish"),
    .filesReplaced oneFile, .acted (.submit noon "source rc"),
    .acted (.submit noon "export B=2 c3=x=y")]

/-- In such a session all of them can be used. -/
theorem aliases_usable_mixed :
    ofConfig "1" {} false noon = .ok untouched ∧
      untouched.spelledAlong .aliases mixed = ["ll"] ∧
      (untouched.live mixed).shell.AliasesUsable := by
  have hnew : ofConfig "1" {} false noon = .ok untouched := by rfl
  have hspelled : untouched.spelledAlong .aliases mixed = ["ll"] := by decide +kernel
  refine ⟨hnew, hspelled, (aliases_usable_iff "1" {} false noon untouched hnew mixed).mpr ?_⟩
  rw [hspelled, List.forall_mem_singleton, show "ll".toList = ['l', 'l'] from rfl,
    List.forall_mem_cons, List.forall_mem_singleton]
  exact ⟨fun _ => by rfl, fun _ => by rfl⟩

/-- A tab can stand in the name of an alias, which then cannot be used. -/
theorem alias_with_tab :
    let s := (untouched.submit noon "alias a\tb=x").value.2
    Fields.get? (s.shell.profiles.get .bash).aliases "a\tb" = some "x" ∧
      s.shell.active = .bash ∧ s.shell.expandAlias "a\tb" = "a\tb" ∧
      ¬ s.shell.AliasesUsable := by
  have hstored : Fields.get? ((untouched.submit noon "alias a\tb=x").value.2.shell.profiles.get
      .bash).aliases "a\tb" = some "x" := by rfl
  refine ⟨hstored, by rfl, by rfl, fun h => ?_⟩
  have htab := (h .bash "a\tb" "x" hstored).1.solid '\t' (by decide)
  exact absurd htab (by decide)

/-! ### The `export` command -/

theorem takeWhile_eq_nil_iff (cs : List Char) :
    cs.takeWhile (fun ch => ch != '=') = [] ↔ cs = [] ∨ cs.head? = some '=' := by
  cases cs with
  | nil => simp
  | cons ch rest =>
      by_cases hch : ch = '='
      · simp [hch]
      · simp [hch]

/-- An argument writes no assignment if it has no equals sign, or nothing in
    front of the first one. -/
theorem assignment?_eq_none_iff (arg : String) :
    assignment? arg = none ↔ '=' ∉ arg.toList ∨ arg.toList.head? = some '=' := by
  have hcut := List.takeWhile_append_dropWhile (p := fun ch => ch != '=') (l := arg.toList)
  unfold assignment? splitAssignment
  rw [List.span_eq_takeWhile_dropWhile]
  cases hrest : arg.toList.dropWhile (fun ch => ch != '=') with
  | nil =>
      refine iff_of_true rfl (.inl fun hmem => ?_)
      have hne := List.dropWhile_eq_nil_iff.mp hrest '=' hmem
      exact absurd hne (by decide)
  | cons sign value =>
      -- The first character that is no other one is the equals sign.
      have hsign : sign = '=' := by
        have hhead := List.head_dropWhile_not (fun ch => ch != '=')
          (by rw [hrest]; exact List.cons_ne_nil _ _)
        simpa [hrest] using hhead
      have hmem : '=' ∈ arg.toList := by
        rw [← hcut, hrest, hsign]
        exact List.mem_append_right _ List.mem_cons_self
      dsimp only
      have hempty : (String.ofList (arg.toList.takeWhile (fun ch => ch != '='))).isEmpty = true ↔
          arg.toList.head? = some '=' := by
        rw [String.isEmpty_iff, String.ofList_eq_empty_iff, takeWhile_eq_nil_iff]
        exact or_iff_right (List.ne_nil_of_mem hmem)
      rw [or_iff_right (not_not_intro hmem), ← hempty]
      split <;> simp_all

theorem assignmentsOf_ok (args : List String) (h : ∀ arg ∈ args, assignment? arg ≠ none) :
    ∃ assignments, assignmentsOf args = .ok assignments := by
  induction args with
  | nil => exact ⟨[], rfl⟩
  | cons arg rest ih =>
      rcases Option.ne_none_iff_exists'.mp (h arg List.mem_cons_self) with ⟨a, ha⟩
      rcases ih (fun arg hrest => h arg (List.mem_cons_of_mem _ hrest)) with ⟨assignments, hrec⟩
      exact ⟨a :: assignments, by simp only [assignmentsOf, ha, hrec, Except.map]⟩

/-- A line that calls the `export` command is refused as a whole exactly if one
    of its arguments has no equals sign, or nothing in front of it. -/
theorem refused_export_iff (now : Moment) (raw : String) (s : Session) (c : Command)
    (answer : Traced (List Line × Session)) (h : s.dispatch now raw = .ok answer)
    (hcall : s.called? raw = some (.exportVariables, c)) :
    Refused s answer ↔ ∃ arg ∈ c.args, '=' ∉ arg.toList ∨ arg.toList.head? = some '=' := by
  rw [refused_iff now raw s .exportVariables c answer h hcall]
  simp only [← assignment?_eq_none_iff]
  constructor
  · intro hrefused
    by_contra hgood
    simp only [not_exists, not_and] at hgood
    rcases assignmentsOf_ok c.args hgood with ⟨assignments, hok⟩
    -- Without arguments the variables are shown, and with good ones they are set.
    have hlines : ∃ texts, (s.exportVariables c).value.1 = .lines texts := by
      unfold exportVariables
      split
      · exact ⟨_, rfl⟩
      · rw [hok]
        exact ⟨_, rfl⟩
    rcases hlines with ⟨texts, htexts⟩
    exact hrefused texts htexts
  · exact fun hbad texts => exportVariables_not_lines c s hbad texts

/-- Whatever happens to a new session, all its variables have variable names
    exactly if those have them that lines have exported. A line that exports is
    refused as a whole, but only for an argument without a name. -/
theorem variables_named_iff (id : String) (c : Config) (isWatching : Bool) (now : Moment)
    (s : Session) (h : ofConfig id c isWatching now = .ok s) (happenings : List Happening) :
    ((∀ who, ∀ name ∈ Fields.names ((s.live happenings).shell.profiles.get who).environment,
        Text.isIdentifier name.toList = true) ↔
      ∀ name ∈ s.spelledAlong .environment happenings, Text.isIdentifier name.toList = true) ∧
    ∀ now' raw called answer, (s.live happenings).called? raw = some (.exportVariables, called) →
      (s.live happenings).dispatch now' raw = .ok answer →
      (Refused (s.live happenings) answer ↔
        ∃ arg ∈ called.args, '=' ∉ arg.toList ∨ arg.toList.head? = some '=') := by
  refine ⟨wellNamed_live_iff .environment id c isWatching now s h happenings, ?_⟩
  intro now' raw called answer hcall hanswer
  exact refused_export_iff now' raw _ called answer hanswer hcall

/-- In such a session the variables have variable names. A line with one
    argument that has no name exports nothing. -/
theorem variables_named_mixed :
    ofConfig "1" {} false noon = .ok untouched ∧
      untouched.spelledAlong .environment mixed = ["B", "c3"] ∧
      (∀ who, ∀ name ∈ Fields.names ((untouched.live mixed).shell.profiles.get who).environment,
        Text.isIdentifier name.toList = true) ∧
      ∃ answer, untouched.dispatch noon "export D=4 =5" = .ok answer ∧
        Refused untouched answer := by
  have hnew : ofConfig "1" {} false noon = .ok untouched := by rfl
  have hspelled : untouched.spelledAlong .environment mixed = ["B", "c3"] := by decide +kernel
  have hcall : untouched.called? "export D=4 =5" = some (.exportVariables,
      { name := "export", args := ["D=4", "=5"], line := "export D=4 =5",
        remainder := "D=4 =5" }) := by rfl
  refine ⟨hnew, hspelled,
    (variables_named_iff "1" {} false noon untouched hnew mixed).1.mpr ?_, _, by rfl, ?_⟩
  · rw [hspelled, List.forall_mem_cons, List.forall_mem_singleton]
    exact ⟨by rfl, by rfl⟩
  · exact ((variables_named_iff "1" {} false noon untouched hnew []).2 noon _ _ _ hcall
      (by rfl)).mpr ⟨"=5", by decide, .inr (by rfl)⟩

/-- A name that begins with a digit can be exported. -/
theorem export_of_digit :
    let s := (untouched.submit noon "export 1A=x").value.2
    (untouched.submit noon "export 1A=x").value.1 =
        .ok [⟨.command, 1, .str "user@hyper-terminal:/$ export 1A=x"⟩] ∧
      "1A" ∈ Fields.names (s.shell.profiles.get .bash).environment ∧
      Text.isIdentifier "1A".toList = false := by
  refine ⟨by rfl, ?_, by rfl⟩
  decide +kernel

end Session

end SimTerm
