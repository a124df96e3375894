import SimTerm.Proofs.Command
import SimTerm.Proofs.Session.Call
import SimTerm.Proofs.Shell.Loading

/-!
# Reading Back the List of Aliases

The list of the aliases as a configuration, and as lines that are typed in.

The `alias` command shows each alias as a line that would define it. Two readers
take such lines, and they do not work alike. The scanner of configurations takes
all quotes out of the text behind the equals sign, wherever they stand, and the
command itself strips them from the ends only. What is shown has a quote at both
ends, and so both find what is between them if no quote is there.

The quotes also keep the line in one piece. It ends with one, so nothing is
trimmed from it, and the value can begin and end with blanks. It need not be
free of equals signs either, since both readers look for the first one, which
is the one behind the name.

Entries that are stored one after the other come in their order as long as
their names differ. So a table is rebuilt from its list when it was listed from
distinct names (`rebuilt`), and it does not matter who reads the lines.

## Main definitions

* `aliasText`, `aliasTexts`: What is shown for an alias and for a table.
* `IsLegible`: An alias with a name and a value that both readers find again.
* `IsListable`: A table of such aliases.
* `betweenQuotes`: A text with a quote at both ends.

## Theorems

* `ofText_aliasText`: How the scanner reads a line of the list.
* `aliasCommand_aliasText`: How the command does.
* `listing_reads_back`: The table from its list, either way.
-/

namespace SimTerm

/-- The line that shows an alias. -/
def aliasText (a : String × String) : String := "alias " ++ a.1 ++ "='" ++ a.2 ++ "'"

/-- The lines that show a table of aliases. -/
def aliasTexts (aliases : Table) : List String := aliases.map aliasText

/-- An alias that can be told from the line that shows it. -/
structure IsLegible (a : String × String) : Prop where
  /-- The name is a word. -/
  isWord : Text.IsWord a.1.toList
  /-- No equals sign is in it. -/
  signless : '=' ∉ a.1.toList
  /-- There is a value. -/
  ne_empty : a.2 ≠ ""
  /-- No quote is in it. -/
  quoteless : ∀ c ∈ a.2.toList, RcLine.isQuote c = false
  /-- No line break is in it. -/
  unbroken : '\n' ∉ a.2.toList

/-- A table of aliases that can be told from its list. -/
structure IsListable (aliases : Table) : Prop where
  /-- No name stands in it twice. -/
  nodup : (Fields.names aliases).Nodup
  /-- Each alias can be told from its line. -/
  isLegible : ∀ a ∈ aliases, IsLegible a

/-- A text with a quote at both ends. -/
def betweenQuotes (text : List Char) : List Char := '\'' :: (text ++ ['\''])

/-! ### Texts between quotes -/

theorem isPhrase_betweenQuotes (text : List Char) : Text.IsPhrase (betweenQuotes text) where
  ne_nil := List.cons_ne_nil _ _
  first := fun c hc => by
    rw [← Option.mem_some.mp hc]
    rfl
  last := fun c hc => by
    rw [betweenQuotes, ← List.cons_append, List.getLast?_concat, Option.mem_some] at hc
    rw [← hc]
    rfl

/-- The scanner takes the quotes out. -/
theorem unquote_betweenQuotes (text : List Char) (h : ∀ c ∈ text, RcLine.isQuote c = false) :
    RcLine.unquote (betweenQuotes text) = text := by
  have hkept : text.filter (fun c => !RcLine.isQuote c) = text :=
    List.filter_eq_self.mpr fun c hc => by rw [h c hc]; rfl
  rw [RcLine.unquote, (isPhrase_betweenQuotes text).trim, betweenQuotes,
    List.filter_cons_of_neg (by decide), List.filter_append, hkept,
    List.filter_cons_of_neg (by decide), List.filter_nil, List.append_nil]

/-- The command strips them from the ends. -/
theorem stripQuotes_betweenQuotes (text : List Char) (hne : text ≠ [])
    (h : ∀ c ∈ text, RcLine.isQuote c = false) :
    Session.stripQuotes (String.ofList (betweenQuotes text)) = String.ofList text := by
  -- Stripping stops at the first character that is no quote, from either end.
  have hstop : ∀ cs rest : List Char, cs ≠ [] → (∀ c ∈ cs, RcLine.isQuote c = false) →
      ('\'' :: (cs ++ rest)).dropWhile RcLine.isQuote = cs ++ rest := by
    intro cs rest hcs hquoteless
    rcases List.exists_cons_of_ne_nil hcs with ⟨c, others, rfl⟩
    rw [List.dropWhile_cons_of_pos (by decide), List.cons_append, List.dropWhile_cons_of_neg]
    exact Bool.eq_false_iff.mp (hquoteless c List.mem_cons_self)
  have hback := hstop text.reverse [] (List.reverse_ne_nil_iff.mpr hne)
    fun c hc => h c (List.mem_reverse.mp hc)
  rw [List.append_nil] at hback
  rw [Session.stripQuotes, String.toList_ofList, betweenQuotes, hstop text ['\''] hne h,
    List.reverse_concat, hback, List.reverse_reverse]

/-- With a quote inside, the two are left with different texts. -/
example : RcLine.unquote (betweenQuotes "it's".toList) = "its".toList ∧
    Session.stripQuotes (String.ofList (betweenQuotes "it's".toList)) = "it's" :=
  ⟨by rfl, by rfl⟩

/-! ### One line -/

theorem toList_aliasText (a : String × String) :
    (aliasText a).toList =
      "alias".toList ++ ([' '] ++ (a.1.toList ++ '=' :: betweenQuotes a.2.toList)) := by
  simp only [aliasText, String.toList_append, betweenQuotes, List.append_assoc]
  rfl

theorem isWord_alias : Text.IsWord "alias".toList :=
  Text.isWord_of_any _ (List.cons_ne_nil _ _) rfl

variable (a : String × String) (h : IsLegible a)

include h

/-- What follows the first word of a line of the list. -/
theorem IsLegible.isPhrase : Text.IsPhrase (a.1.toList ++ '=' :: betweenQuotes a.2.toList) :=
  h.isWord.append (isPhrase_betweenQuotes a.2.toList) '='

theorem IsLegible.not_mem_aliasText : '\n' ∉ (aliasText a).toList := by
  have hname : '\n' ∉ a.1.toList := fun hmem => absurd (h.isWord.solid _ hmem) (by decide)
  have hvalue := h.unbroken
  simp only [toList_aliasText, betweenQuotes, List.mem_append, List.mem_cons, List.not_mem_nil,
    hname, hvalue]
  decide

/-- The scanner reads a line of the list as the alias that it shows. -/
theorem ofText_aliasText :
    RcLine.ofText (aliasText a).toList = .aliasLine a.1.toList a.2.toList := by
  have hvalue := unquote_betweenQuotes a.2.toList h.quoteless
  have hne : RcLine.unquote (betweenQuotes a.2.toList) ≠ [] := by
    rw [hvalue, ne_eq, String.toList_eq_nil_iff]
    exact h.ne_empty
  have htrim : Text.trim (aliasText a).toList = (aliasText a).toList := by
    rw [toList_aliasText]
    exact (isWord_alias.append h.isPhrase ' ').trim
  have hgap : RcLine.IsGap [' '] := ⟨List.cons_ne_nil _ _, List.forall_mem_singleton.mpr rfl⟩
  rw [RcLine.ofText, htrim, toList_aliasText,
    RcLine.ofTrimmed_assigned [' '] a.1.toList _ hgap h.isWord h.signless hne, hvalue]

/-- A line of the list calls the `alias` command. -/
theorem parse_aliasText :
    Command.parse (aliasText a) =
      { name := "alias"
        args := (Text.words (a.1.toList ++ '=' :: betweenQuotes a.2.toList)).map String.ofList
        line := aliasText a
        remainder := String.ofList (a.1.toList ++ '=' :: betweenQuotes a.2.toList) } :=
  Command.parse_append (aliasText a) "alias".toList _ isWord_alias h.isPhrase ' ' rfl
    (toList_aliasText a)

/-- The command cuts it at the equals sign behind the name. -/
theorem splitAssignment_aliasText :
    Session.splitAssignment (Command.parse (aliasText a)).remainder =
      (a.1, some (String.ofList (betweenQuotes a.2.toList))) := by
  have hcut := RcLine.span_append (fun c => c != '=') a.1.toList ('=' :: betweenQuotes a.2.toList)
    (fun c hc => bne_iff_ne.mpr fun hsign => h.signless (hsign ▸ hc))
    (fun c hc => by
      rw [← Option.mem_some.mp hc]
      rfl)
  rw [parse_aliasText a h, Session.splitAssignment, String.toList_ofList, hcut]
  dsimp only
  rw [String.ofList_toList]

/-- The command stores the alias that a line of the list shows. -/
theorem aliasCommand_aliasText (s : Session) :
    s.aliasCommand (Command.parse (aliasText a)) =
      .pure (.texts [], s.withShell (s.shell.setAlias a.1 a.2)) := by
  have hargs : (Command.parse (aliasText a)).args.isEmpty = false := by
    rw [parse_aliasText a h, List.isEmpty_eq_false_iff, ne_eq, List.map_eq_nil_iff]
    exact Text.words_ne_nil _ h.isPhrase
  have hname : trimmed a.1 = a.1 := by
    rw [trimmed, h.isWord.isPhrase.trim, String.ofList_toList]
  have hvalue : Session.stripQuotes (trimmed (String.ofList (betweenQuotes a.2.toList))) = a.2 := by
    have hne : a.2.toList ≠ [] := fun hnil => h.ne_empty (String.toList_eq_nil_iff.mp hnil)
    rw [trimmed, String.toList_ofList, (isPhrase_betweenQuotes a.2.toList).trim,
      stripQuotes_betweenQuotes a.2.toList hne h.quoteless, String.ofList_toList]
  -- Neither reason to refuse the line applies to a word.
  have hword : ¬ (a.1.isEmpty || a.1.toList.contains ' ') = true := by
    rw [Bool.or_eq_true, String.isEmpty_iff, ← String.toList_eq_nil_iff, List.contains_iff_mem]
    rintro (hnil | hmem)
    · exact h.isWord.ne_nil hnil
    · exact absurd (h.isWord.solid ' ' hmem) (by decide)
  unfold Session.aliasCommand
  rw [hargs, splitAssignment_aliasText a h]
  dsimp only
  rw [hname, if_neg hword, hvalue]
  rfl

omit h

/-! ### Lists -/

namespace Shell

/-- Aliases that are stored one after the other. -/
theorem foldl_setAlias (stored : Table) (sh : Shell) :
    stored.foldl (fun sh a => sh.setAlias a.1 a.2) sh =
      sh.modify (fun p => { p with
        aliases := stored.foldl (fun aliases a => Fields.set aliases a.1 a.2) p.aliases }) := by
  induction stored generalizing sh with
  | nil => exact sh.modify_id.symm
  | cons a rest ih =>
      rw [List.foldl_cons, ih, setAlias, modify_modify]
      rfl

/-- Distinct names that are stored in a profile without aliases make the table
    that they come from. -/
theorem rebuilt (stored : Table) (hnodup : (Fields.names stored).Nodup) (sh : Shell)
    (hnone : sh.profile.aliases = []) :
    stored.foldl (fun sh a => sh.setAlias a.1 a.2) sh =
      sh.modify (fun p => { p with aliases := stored }) := by
  rw [foldl_setAlias, modify, hnone,
    Fields.foldl_set_of_nodup stored [] (fun a _ => List.not_mem_nil) hnodup, List.nil_append]
  rfl

/-- Lines that are read as aliases store them one after the other. -/
theorem loadLines_aliases (stored : Table) (sh : Shell) :
    sh.loadLines (stored.map (fun a => .aliasLine a.1.toList a.2.toList)) =
      stored.foldl (fun sh a => sh.setAlias a.1 a.2) sh := by
  induction stored generalizing sh with
  | nil => exact sh.modify_id
  | cons a rest ih =>
      have hfirst : sh.loadLines [.aliasLine a.1.toList a.2.toList] = sh.setAlias a.1 a.2 := by
        simp only [loadLines, List.foldl_cons, List.foldl_nil, Profile.apply, setAlias,
          String.ofList_toList]
      rw [List.map_cons, ← List.singleton_append, loadLines_append, hfirst, ih, List.foldl_cons]

end Shell

/-- Lines without line breaks are the lines of the text that they are joined to. -/
theorem ofLines_intercalate (lines : List String) (hne : lines ≠ [])
    (h : ∀ line ∈ lines, '\n' ∉ line.toList) :
    RcLine.ofLines (String.intercalate "\n" lines) =
      lines.map (fun line => RcLine.ofText line.toList) := by
  have hsplit : (String.intercalate "\n" lines).toList.splitOn '\n' = lines.map String.toList := by
    rw [String.toList_intercalate]
    refine List.splitOn_intercalate '\n' (fun cs hcs => ?_) (fun hnil => ?_)
    · rcases List.mem_map.mp hcs with ⟨line, hline, rfl⟩
      exact h line hline
    · exact hne (List.map_eq_nil_iff.mp hnil)
  rw [RcLine.ofLines, hsplit, List.map_map]
  rfl

/-- Lines that are joined to a text are read one after the other. -/
theorem load_intercalate (sh : Shell) (lines : List String) (h : ∀ line ∈ lines, '\n' ∉ line.toList) :
    (sh.load (String.intercalate "\n" lines)).value =
      (LoadCount.ofLines (lines.map (fun line => RcLine.ofText line.toList)),
        sh.loadLines (lines.map (fun line => RcLine.ofText line.toList))) := by
  by_cases hnil : lines = []
  · -- No lines are joined to one blank line.
    have hblank : sh.loadLines [.other] = sh := sh.loadLines_singleton_other .other rfl
    have hnone : sh.loadLines [] = sh := sh.modify_id
    rw [hnil, Shell.load]
    exact Prod.ext rfl (hblank.trans hnone.symm)
  · rw [Shell.load, ofLines_intercalate lines hnil h]

/-- What is counted in lines that are read as aliases. -/
theorem count_aliases (stored : Table) :
    LoadCount.ofLines (stored.map (fun a => .aliasLine a.1.toList a.2.toList)) =
      ⟨stored.length, 0, 0⟩ := by
  simp only [LoadCount.ofLines, List.countP_map, LoadCount.mk.injEq]
  exact ⟨List.countP_eq_length.mpr fun _ _ => rfl,
    List.countP_eq_zero.mpr fun _ _ => Bool.false_ne_true,
    List.countP_eq_zero.mpr fun _ _ => Bool.false_ne_true⟩

/-- The list of a table, loaded where there are no aliases, makes that table. -/
theorem load_listing (aliases : Table) (h : IsListable aliases) (sh : Shell)
    (hnone : sh.profile.aliases = []) :
    (sh.load (String.intercalate "\n" (aliasTexts aliases))).value =
      (⟨aliases.length, 0, 0⟩, sh.modify (fun p => { p with aliases })) := by
  have hread : (aliasTexts aliases).map (fun line => RcLine.ofText line.toList) =
      aliases.map (fun a => .aliasLine a.1.toList a.2.toList) := by
    rw [aliasTexts, List.map_map]
    refine List.map_congr_left fun a ha => ?_
    rw [Function.comp_apply, ofText_aliasText a (h.isLegible a ha)]
  have hunbroken : ∀ line ∈ aliasTexts aliases, '\n' ∉ line.toList :=
    List.forall_mem_map.mpr fun a ha => (h.isLegible a ha).not_mem_aliasText
  rw [load_intercalate sh _ hunbroken, hread, count_aliases, Shell.loadLines_aliases,
    Shell.rebuilt aliases h.nodup sh hnone]

namespace Session

/-- The lines of a list store its aliases one after the other when they are run. -/
theorem foldl_aliasCommand (aliases : Table) (h : ∀ a ∈ aliases, IsLegible a) (s : Session) :
    (aliasTexts aliases).foldl (fun s line => (s.aliasCommand (Command.parse line)).value.2) s =
      s.withShell (aliases.foldl (fun sh a => sh.setAlias a.1 a.2) s.shell) := by
  induction aliases generalizing s with
  | nil => rfl
  | cons a rest ih =>
      rw [aliasTexts, List.map_cons, List.foldl_cons,
        aliasCommand_aliasText a (h a List.mem_cons_self)]
      exact ih (fun b hb => h b (List.mem_cons_of_mem _ hb)) _

/-- The list of a table of aliases can be read back. The `alias` command shows
    it and changes nothing. Where there are no aliases, the lines of the list
    make the same table in the same order, and nothing else. They do so as a
    configuration, in which each of them counts as an alias, and they do so as
    lines that are parsed and run by the `alias` command, which refuses none. -/
theorem listing_reads_back (aliases : Table) (h : IsListable aliases) :
    (∀ (now : Moment) (s : Session) (c : Command), s.shell.profile.aliases = aliases → c.args = [] →
      perform now .aliases c s = s.answer (aliasTexts aliases)) ∧
    (∀ sh : Shell, sh.profile.aliases = [] →
      (sh.load (String.intercalate "\n" (aliasTexts aliases))).value =
        (⟨aliases.length, 0, 0⟩, sh.modify (fun p => { p with aliases }))) ∧
    (∀ (now : Moment) (s : Session), s.shell.profile.aliases = [] →
      (aliasTexts aliases).foldl
          (fun s line => (perform now .aliases (Command.parse line) s).value.2) s =
        s.withShell (s.shell.modify (fun p => { p with aliases }))) ∧
    ∀ line ∈ aliasTexts aliases, (Command.parse line).name = "alias" ∧
      ∀ (now : Moment) (s : Session),
        (perform now .aliases (Command.parse line) s).value.1 = .texts [] := by
  refine ⟨fun now s c htable hargs => ?_, load_listing aliases h, fun now s hnone => ?_,
    List.forall_mem_map.mpr fun a ha => ⟨?_, fun now s => ?_⟩⟩
  · rw [← htable]
    exact if_pos (List.isEmpty_iff.mpr hargs)
  · rw [← Shell.rebuilt aliases h.nodup s.shell hnone]
    exact foldl_aliasCommand aliases h.isLegible s
  · rw [parse_aliasText a (h.isLegible a ha)]
  · rw [perform, aliasCommand_aliasText a (h.isLegible a ha), Traced.pure]

/-- Aliases that look like something else in places. -/
def lookalikes : Table := [("ll", "ls -l"), ("..", " a = b "), ("#x", "function f()")]

/-- Their list, shown, loaded and typed in. -/
theorem listing_reads_back_lookalikes :
    let listed := untouched.withShell
      (untouched.shell.modify (fun p => { p with aliases := lookalikes }))
    let lines := ["alias ll='ls -l'", "alias ..=' a = b '", "alias #x='function f()'"]
    IsListable lookalikes ∧
      perform noon .aliases (Command.parse "alias") listed = listed.answer lines ∧
      (untouched.shell.load (String.intercalate "\n" lines)).value = (⟨3, 0, 0⟩, listed.shell) ∧
      lines.foldl (fun s line => (perform noon .aliases (Command.parse line) s).value.2) untouched =
        listed ∧
      (perform noon .aliases (Command.parse "alias ..=' a = b '") untouched).value.1 = .texts [] := by
  have hlistable : IsListable lookalikes := by
    refine ⟨by decide, List.forall_mem_cons.mpr ⟨?_, List.forall_mem_cons.mpr
      ⟨?_, List.forall_mem_singleton.mpr ?_⟩⟩⟩
    all_goals
      refine ⟨Text.isWord_of_any _ (List.cons_ne_nil _ _) rfl, by decide, by decide, ?_, by decide⟩
      exact fun c hc => Bool.eq_false_iff.mpr (List.any_eq_false.mp (by rfl) c hc)
  have hlines : aliasTexts lookalikes =
      ["alias ll='ls -l'", "alias ..=' a = b '", "alias #x='function f()'"] := by rfl
  rcases listing_reads_back lookalikes hlistable with ⟨hshown, hloaded, htyped, hends⟩
  rw [hlines] at hshown hloaded htyped hends
  exact ⟨hlistable, hshown noon _ _ rfl (by rfl), hloaded _ rfl, htyped noon _ rfl,
    (hends _ (List.mem_cons_of_mem _ List.mem_cons_self)).2 noon untouched⟩

end Session

end SimTerm
