import SimTerm.Proofs.Command
import SimTerm.Proofs.Records
import SimTerm.Proofs.Session.Shape
import SimTerm.Proofs.Session.Stock

/-!
# Calling a Workflow by Its Name

When the name that a workflow was loaded under can be used to run it.

The `workflow` command has no quotes for a name of several words. It takes the
words of its line up to the first value, and puts single blanks between them. So
a name comes back as it is if it is made of words with single blanks between
them, and no word looks like a value (`ofArgs_eq`). Then the workflow that was
just stored is found under it, and nothing was given for its placeholders.

A word with an equals sign behind a key is a value, and that is meant to be so.
It is not part of any name that is looked up, so no workflow with such a word in
its name can be called by it: what is found instead has another name, if
anything is found at all. For this it has to be known that records stand under their own
names, and that lower-casing neither makes nor loses an equals sign.

## Main definitions

* `IsJoined`: A name is its words with single blanks between them.
* `HasPair`: A name has a word that is a key with a value.
* `Executes`: A line is answered by running a workflow with a name.

## Theorems

* `submit_of_called`, `head_of_conclude`: What is shown for a command.
* `commandOf?_nameLine`: The command that a line with a name calls.
* `ofArgs_eq`, `signless_ofArgs`: What is taken for a name.
* `RunsOwn.turns`: Built-in commands run under their own names only.
* `perform_loadWorkflow`, `submit_loadWorkflow`: What a session has after loading.
* `submit_nameLine`, `not_executes_of_sign`: What a line with a name runs.
* `loaded_runs_by_name`: When a loaded workflow runs by its name.
* `pair_in_name`: One that does not.
-/

namespace SimTerm

namespace Session

/-! ### What is shown for a command -/

/-- The answer to a line that calls a command. -/
theorem dispatch_of_called (now : Moment) (raw : String) (s : Session) (b : Builtin) (c : Command)
    (hcall : s.called? raw = some (b, c)) :
    ∃ caps, s.config.lineCaps = .ok caps ∧
      s.dispatch now raw =
        .ok (cutAnswer caps.maxDispatchLines.val c (conclude c (s.perform now b c))) := by
  rcases (called?_eq_some_iff s raw b c).mp hcall with ⟨caps, hcaps, hc, hshort, hname⟩
  refine ⟨caps, hcaps, ?_⟩
  have hrun : s.runCommand now caps.maxCommandLength.val c = conclude c (s.perform now b c) := by
    rw [runCommand, if_neg (Nat.not_lt.mpr hshort), hname]
    rfl
  simp only [dispatch, hc, hcaps, hrun]

/-- What is shown for a line that calls a command and asks for no empty screen:
    the line itself and what the command makes, as far as the cap allows. -/
theorem submit_of_called (now : Moment) (raw : String) (s : Session) (b : Builtin) (c : Command)
    (hcall : s.entered? raw = some (b, c)) (hb : b ≠ .clear) :
    ∃ caps echo, s.config.lineCaps = .ok caps ∧ echo.kind = .command ∧
      (s.submit now raw).value.1 = .ok (echo ::
        (conclude c (s.ready.perform now b c)).value.1.take caps.maxDispatchLines.val) := by
  rcases (entered?_eq_some_iff s raw _).mp hcall with ⟨⟨prompt, hprompt⟩, hcall⟩
  rw [← called?_ready] at hcall
  rcases dispatch_of_called now raw s.ready b c hcall with ⟨caps, hcaps, hanswer⟩
  -- An empty screen is asked for by its own command alone.
  have hscreen : ¬ ∃ c, s.called? raw = some (.clear, c) := by
    rintro ⟨c', hclear⟩
    rw [← called?_ready, hcall, Option.some.injEq, Prod.mk.injEq] at hclear
    exact hb hclear.1
  rw [submit_of_prompt now raw s prompt hprompt]
  rcases submitAt_cases prompt now raw s with
    ⟨f, hf, _⟩ | ⟨answer, hrun, hcleared, _⟩ | ⟨answer, hrun, _, h⟩
  · rw [hanswer] at hf
    exact absurd hf (by simp only [reduceCtorEq, not_false_eq_true])
  · exact absurd ((dispatch_clearRequested now raw s answer hrun).mp hcleared) hscreen
  · rw [hanswer, Except.ok.injEq] at hrun
    refine ⟨caps, ⟨.command, (answer.value.2.remember raw).nextLine,
      .str (prompt ++ " " ++ raw)⟩, hcaps, rfl, ?_⟩
    rw [h, record_lines, ← hrun, cutAnswer_lines]

/-- A command that goes through shows its texts. -/
theorem conclude_lines (c : Command) (e : Effect) (texts : List Json)
    (h : e.value.1 = .lines texts) :
    (conclude c e).value.1 = makeLines .output e.value.2.nextLine texts := by
  rw [conclude, h]
  rfl

/-- Where a line of output is shown first, the command has gone through and the
    line is its first text. -/
theorem head_of_conclude (c : Command) (e : Effect) (l : Line)
    (h : (conclude c e).value.1.head? = some l) (hl : l.kind = .output) :
    ∃ texts, e.value.1 = .lines (l.text :: texts) := by
  unfold conclude at h
  cases hends : e.value.1 with
  | lines texts =>
      simp only [hends, number] at h
      cases texts with
      | nil => exact absurd h (by simp only [makeLines, List.head?_nil, reduceCtorEq,
          not_false_eq_true])
      | cons text more =>
          rw [makeLines, List.head?_cons, Option.some.injEq] at h
          rw [← h]
          exact ⟨more, rfl⟩
  | refused err =>
      simp only [hends, number, makeLines, List.head?_cons, Option.some.injEq] at h
      rw [← h] at hl
      exact absurd hl (by simp only [reduceCtorEq, not_false_eq_true])
  | broke =>
      simp only [hends, number, makeLines, List.head?_cons, Option.some.injEq] at h
      rw [← h] at hl
      exact absurd hl (by simp only [reduceCtorEq, not_false_eq_true])

/-! ### The line with a name -/

/-- The line that calls a workflow by a name. -/
def nameLine (name : String) : String := "workflow " ++ name

/-- The command that such a line calls. -/
def nameCommand (name : String) : Command where
  name := "workflow"
  args := (Text.words name.toList).map String.ofList
  line := nameLine name
  remainder := name

theorem isWord_workflow : Text.IsWord "workflow".toList :=
  Text.isWord_of_any _ (List.cons_ne_nil _ _) rfl

theorem toList_nameLine (name : String) :
    (nameLine name).toList = "workflow".toList ++ ' ' :: name.toList := by
  rw [nameLine, String.toList_append]
  rfl

theorem commandOf?_nameLine (s : Session) (name : String) (hname : Text.IsPhrase name.toList)
    (halias : Fields.get? s.shell.profile.aliases "workflow" = none) :
    s.commandOf? (nameLine name) = some (nameCommand name) := by
  have hexpand : s.shell.expandAlias (nameLine name) = nameLine name := by
    simp only [Shell.expandAlias, toList_nameLine,
      Text.headWord_append _ name.toList isWord_workflow ' ' rfl, String.ofList_toList, halias]
  have htrim : trimmed (nameLine name) = nameLine name := by
    rw [trimmed, toList_nameLine, (isWord_workflow.append hname ' ').trim, ← toList_nameLine,
      String.ofList_toList]
  have hparse : Command.parse (nameLine name) = nameCommand name := by
    rw [Command.parse_append _ _ _ isWord_workflow hname ' ' rfl (toList_nameLine name),
      String.ofList_toList]
    rfl
  have hline : (nameLine name).isEmpty = false := by
    rw [Bool.eq_false_iff, ne_eq, String.isEmpty_iff, ← String.toList_eq_nil_iff, toList_nameLine]
    exact List.append_ne_nil_of_left_ne_nil isWord_workflow.ne_nil _
  have hword : (nameCommand name).name.isEmpty = false := rfl
  simp only [commandOf?, htrim, hline, hexpand, hparse, hword, Bool.false_eq_true, if_false]

/-! ### What is taken for a name -/

/-- An argument gives a value exactly if there is an equals sign in it. -/
theorem splitAssignment_none_iff (text : String) :
    (∃ before, splitAssignment text = (before, none)) ↔ '=' ∉ text.toList := by
  unfold splitAssignment
  rw [List.span_eq_takeWhile_dropWhile]
  cases h : text.toList.dropWhile (· != '=') with
  | nil =>
      rw [List.dropWhile_eq_nil_iff] at h
      refine iff_of_true ⟨_, rfl⟩ fun hmem => ?_
      exact absurd (h '=' hmem) (by decide)
  | cons c after =>
      refine iff_of_false (fun ⟨before, hsplit⟩ => ?_) (not_not_intro ?_)
      · exact absurd hsplit (by simp only [Prod.mk.injEq, reduceCtorEq, and_false,
          not_false_eq_true])
      · -- The first character that is left is the sign.
        have hfirst := List.head?_dropWhile_not (· != '=') text.toList
        rw [h] at hfirst
        have hsign : c = '=' := by simpa using hfirst
        have hsuffix := List.dropWhile_suffix (· != '=') (l := text.toList)
        rw [h, hsign] at hsuffix
        exact hsuffix.subset List.mem_cons_self

/-- Words without the sign are all taken for the name. -/
theorem ofArgs_eq (args : List String) (h : ∀ arg ∈ args, '=' ∉ arg.toList) :
    WorkflowCall.ofArgs args = { words := args } := by
  suffices hfrom : ∀ words, args.foldl WorkflowCall.take { words } = { words := words ++ args } from
    hfrom []
  induction args with
  | nil => exact fun words => by rw [List.append_nil]; rfl
  | cons arg rest ih =>
      intro words
      rcases List.forall_mem_cons.mp h with ⟨harg, hrest⟩
      rcases (splitAssignment_none_iff arg).mpr harg with ⟨before, hsplit⟩
      rw [List.foldl_cons, WorkflowCall.take, hsplit]
      dsimp only
      rw [if_pos List.isEmpty_nil, ih hrest, List.append_assoc, List.singleton_append]

/-- What is taken for the name has no sign in it. -/
theorem signless_ofArgs (args : List String) :
    ∀ word ∈ (WorkflowCall.ofArgs args).words, '=' ∉ word.toList := by
  suffices hfrom : ∀ call : WorkflowCall, (∀ word ∈ call.words, '=' ∉ word.toList) →
      ∀ word ∈ (args.foldl WorkflowCall.take call).words, '=' ∉ word.toList from
    hfrom {} fun word hword => absurd hword List.not_mem_nil
  induction args with
  | nil => exact fun call h => h
  | cons arg rest ih =>
      intro call h
      refine ih (call.take arg) ?_
      unfold WorkflowCall.take
      split
      case h_1 name value hsplit =>
        split <;> exact h
      case h_2 name hsplit =>
        split
        · refine List.forall_mem_append.mpr ⟨h, fun word hword => ?_⟩
          rw [List.mem_singleton.mp hword]
          exact (splitAssignment_none_iff arg).mp ⟨name, hsplit⟩
        · exact h

/-! ### Names -/

/-- A name is its words with single blanks between them. -/
def IsJoined (name : String) : Prop :=
  String.intercalate " " ((Text.words name.toList).map String.ofList) = name

instance (name : String) : Decidable (IsJoined name) := inferInstanceAs (Decidable (_ = _))

/-- A name has a word that is a key, an equals sign and a value. -/
def HasPair (name : String) : Prop :=
  ∃ word ∈ Text.words name.toList, '=' ∈ word ∧ word.head? ≠ some '='

instance (name : String) : Decidable (HasPair name) :=
  inferInstanceAs (Decidable (∃ word ∈ Text.words name.toList, _))

theorem isPhrase_of_isJoined (name : String) (hjoined : IsJoined name) (hname : name ≠ "") :
    Text.IsPhrase name.toList := by
  have hwords : name.toList = [' '].intercalate (Text.words name.toList) := by
    conv_lhs => rw [← hjoined]
    exact toList_joined _
  rw [hwords]
  refine Text.isPhrase_intercalate ' ' _ (fun hnil => hname ?_)
    (Text.isWord_of_mem_words name.toList)
  rw [hnil] at hwords
  exact String.toList_eq_nil_iff.mp hwords

/-- What is looked up for some arguments has no equals sign in it. -/
theorem signless_lookup (args : List String) :
    '=' ∉ (String.intercalate " " (WorkflowCall.ofArgs args).words).toList := by
  intro hmem
  rw [String.toList_intercalate] at hmem
  rcases Text.mem_of_mem_intercalate ' ' '=' _ hmem with hblank | ⟨w, hw, hsign⟩
  · exact absurd hblank (by decide)
  · rcases List.mem_map.mp hw with ⟨word, hword, rfl⟩
    exact signless_ofArgs args word hword hsign

theorem isSmall_sign : Text.IsSmall '=' := Text.isSmall_toLower '=' (by decide)

/-- Lower-casing neither makes nor loses an equals sign. -/
theorem sign_mem_lowered (text : String) : '=' ∈ (lowered text).toList ↔ '=' ∈ text.toList := by
  rw [lowered, String.toList_ofList]
  exact Text.mem_lowerAfter_iff [] text.toList '=' isSmall_sign (by decide)

/-! ### The vocabulary -/

/-- A command that is added is not a built-in one. -/
theorem RunsOwn.turn {s : Session} (hs : s.RunsOwn) (t : Turn) : (s.turn t).RunsOwn := by
  cases t with
  | registered added run =>
      intro name b hname
      rw [Session.turn, handler?, Session.register, Fields.get?_set] at hname
      by_cases h : lowered added = name
      · rw [if_pos h, Option.some.injEq] at hname
        exact absurd hname Handler.noConfusion
      · rw [if_neg h] at hname
        exact hs name b hname
  | operated op => exact hs.of_handlers_eq rfl
  | happened h =>
      cases h with
      | acted a => exact hs.of_handlers_eq (act_handlers s a)
      | filesReplaced files => exact hs.of_handlers_eq rfl
      | settingReplaced store =>
          refine hs.of_handlers_eq ?_
          rw [Session.turn, undergo, observe]
          split <;> rfl

theorem RunsOwn.turns {s : Session} (hs : s.RunsOwn) (turns : List Turn) :
    (turns.foldl Session.turn s).RunsOwn := by
  induction turns generalizing s with
  | nil => exact hs
  | cons t rest ih => exact ih (hs.turn t)

/-! ### Loading -/

/-- What the command answers and what it leaves when there is a workflow in the file. -/
theorem perform_loadWorkflow (now : Moment) (c : Command) (s : Session) (path text : String)
    (w : Workflow) (events : List Event) (hc : c.first? = some path)
    (hpath : s.files.read? path = some text) (hread : Workflow.read text = .ok ⟨some w, events⟩) :
    (s.perform now .loadWorkflow c).value =
      (.texts ["Loaded workflow: " ++ w.name, "Description: " ++ purpose w,
        "Command: " ++ w.command], s.withRegistry (s.registry.store w)) := by
  have htext : s.fileText "load-workflow" path = .ok text := by rw [fileText, hpath]
  rw [perform, loadWorkflow, hc]
  simp only [htext, hread]
  rfl

/-- The name that the answer tells is the one of a workflow in the file. -/
theorem workflow_of_answer (now : Moment) (c : Command) (s : Session) (name : String)
    (rest : List String)
    (h : (s.perform now .loadWorkflow c).value.1 = .texts (("Loaded workflow: " ++ name) :: rest)) :
    ∃ path text w events, c.first? = some path ∧ s.files.read? path = some text ∧
      Workflow.read text = .ok ⟨some w, events⟩ ∧ w.name = name := by
  have hloads : s.LoadsWorkflow c := by
    by_contra hnone
    exact loadWorkflow_not_lines now c s hnone _ h
  rcases hloads with ⟨path, text, w, events, hc, hpath, hread⟩
  refine ⟨path, text, w, events, hc, hpath, hread, ?_⟩
  rw [perform_loadWorkflow now c s path text w events hc hpath hread] at h
  simp only [Outcome.texts, Outcome.lines.injEq, List.map_cons, List.cons.injEq,
    Json.str.injEq] at h
  have hnames := congrArg String.toList h.1
  rw [String.toList_append, String.toList_append] at hnames
  exact String.toList_inj.mp (List.append_cancel_left hnames)

/-- A workflow that was read has a name. -/
theorem name_ne_empty (text : String) (w : Workflow) (events : List Event)
    (h : Workflow.read text = .ok ⟨some w, events⟩) : w.name ≠ "" := by
  have hgives := Schema.gives_ofText text Workflow.ofEntries _ Schema.gives_workflow
  have hfilled := (hgives.of_accepted h).name
  intro hname
  rw [hname, IsFilled] at hfilled
  exact absurd hfilled (by decide)

/-- After a line that loads a workflow the session has it, and is otherwise what
    it was as far as the next line can tell. -/
theorem submit_loadWorkflow (now : Moment) (raw : String) (s : Session) (c : Command)
    (path text : String) (w : Workflow) (events : List Event)
    (hcall : s.entered? raw = some (.loadWorkflow, c)) (hc : c.first? = some path)
    (hpath : s.files.read? path = some text) (hread : Workflow.read text = .ok ⟨some w, events⟩) :
    (s.submit now raw).value.2.registry = s.registry.store w ∧
      (s.submit now raw).value.2.shell = s.shell ∧
      (s.submit now raw).value.2.config = s.config ∧
      (s.submit now raw).value.2.handlers = s.handlers := by
  rcases submit_called (fun s => (s.registry, s.shell, s.config, s.handlers))
    (fun _ _ _ _ _ => rfl) now raw s with ⟨b, c', hcall', hafter⟩ | ⟨hnone, _⟩
  · rw [hcall, Option.some.injEq, Prod.mk.injEq] at hcall'
    rw [← hcall'.1, ← hcall'.2,
      perform_loadWorkflow now c s.ready path text w events hc hpath hread] at hafter
    simp only [Prod.mk.injEq] at hafter
    exact hafter
  · rw [hcall] at hnone
    exact absurd hnone (by simp only [reduceCtorEq, not_false_eq_true])

/-- The line with a name calls its command in the session after that. The cap
    that let the longer word of the first line pass lets this one pass too, and
    the same shell has a prompt again. -/
theorem entered?_nameLine (s s' : Session) (raw : String) (load : Command) (name : String)
    (hown : s.RunsOwn) (hcall : s.entered? raw = some (.loadWorkflow, load))
    (hworkflow : s.handler? "workflow" = some (.builtin .workflow))
    (halias : Fields.get? s.shell.profile.aliases "workflow" = none) (hshell : s'.shell = s.shell)
    (hconfig : s'.config = s.config) (hhandlers : s'.handlers = s.handlers)
    (hname : Text.IsPhrase name.toList) :
    s'.entered? (nameLine name) = some (.workflow, nameCommand name) := by
  rcases (entered?_eq_some_iff s raw _).mp hcall with ⟨hprompt, hcall⟩
  rcases (called?_eq_some_iff s raw .loadWorkflow load).mp hcall with ⟨caps, hcaps, _, hshort, hrun⟩
  rw [hown load.name .loadWorkflow hrun] at hshort
  have hlength : "workflow".length ≤ (Builtin.loadWorkflow).name.length := by decide
  have hprompt' : ∃ prompt, s'.prompt = .ok prompt := by
    rw [prompt, hshell, Shell.exists_prompt_iff]
    exact (s.shell.exists_prompt_iff s.files.cwdText).mp hprompt
  refine (entered?_eq_some_iff _ _ _).mpr ⟨hprompt', (called?_eq_some_iff _ _ _ _).mpr
    ⟨caps, ?_, ?_, hlength.trans hshort, ?_⟩⟩
  · rw [hconfig]
    exact hcaps
  · refine commandOf?_nameLine s' name hname ?_
    rw [hshell]
    exact halias
  · rw [handler?, hhandlers]
    exact hworkflow

/-! ### Running -/

/-- A name that is taken back from its words runs what is in store under it, with
    nothing given for the placeholders. -/
theorem perform_nameCommand (now : Moment) (s : Session) (name : String) (w : Workflow)
    (hjoined : IsJoined name) (hname : Text.IsPhrase name.toList) (hsign : '=' ∉ name.toList)
    (hw : s.registry.get? name = some w) :
    s.perform now .workflow (nameCommand name) =
      s.answer ["Executing workflow: " ++ w.name, "Command: " ++ w.render [],
        "Description: " ++ purpose w] := by
  have hargs : WorkflowCall.ofArgs (nameCommand name).args =
      { words := (Text.words name.toList).map String.ofList } := by
    refine ofArgs_eq _ fun arg harg hmem => hsign ?_
    rcases List.mem_map.mp harg with ⟨word, hword, rfl⟩
    rw [String.toList_ofList] at hmem
    exact Text.mem_of_mem_words name.toList word hword '=' hmem
  have hwords : ((Text.words name.toList).map String.ofList).isEmpty = false := by
    rw [List.isEmpty_eq_false_iff, ne_eq, List.map_eq_nil_iff]
    exact Text.words_ne_nil _ hname
  rw [perform, runWorkflow, hargs]
  dsimp only
  rw [hwords, if_neg Bool.false_ne_true, hjoined, hw]

/-- What a line runs is in store under the words that were taken for its name. -/
theorem exists_of_perform_workflow (now : Moment) (s : Session) (c : Command) (text : Json)
    (texts : List Json) (h : (s.perform now .workflow c).value.1 = .lines (text :: texts)) :
    ∃ w, s.registry.get? (String.intercalate " " (WorkflowCall.ofArgs c.args).words) = some w ∧
      text = .str ("Executing workflow: " ++ w.name) := by
  rw [perform, runWorkflow] at h
  dsimp only at h
  split at h
  · exact absurd h Outcome.noConfusion
  · split at h
    case h_1 => exact absurd h Outcome.noConfusion
    case h_2 w hw =>
      rw [answer, Traced.pure, Outcome.texts, Outcome.lines.injEq, List.map_cons,
        List.cons.injEq] at h
      exact ⟨w, hw, h.1.symm⟩

/-- A line is answered by running a workflow: the first line of output behind the
    line itself tells its name. -/
def Executes (now : Moment) (s : Session) (raw name : String) : Prop :=
  ∃ echo first rest, (s.submit now raw).value.1 = .ok (echo :: first :: rest) ∧
    echo.kind = .command ∧ first.kind = .output ∧
    first.text = .str ("Executing workflow: " ++ name)

/-- A name whose words have no equals sign in them runs the workflow under it. -/
theorem submit_nameLine (now : Moment) (s : Session) (name : String) (w : Workflow)
    (hcall : s.entered? (nameLine name) = some (.workflow, nameCommand name))
    (hjoined : IsJoined name) (hname : Text.IsPhrase name.toList) (hsign : '=' ∉ name.toList)
    (hw : s.registry.get? name = some w) :
    ∃ caps echo lines, s.config.lineCaps = .ok caps ∧ echo.kind = .command ∧
      (s.submit now (nameLine name)).value.1 = .ok (echo :: lines) ∧
      (∀ l ∈ lines, l.kind = .output) ∧
      lines.map Line.text = ([.str ("Executing workflow: " ++ w.name),
        .str ("Command: " ++ w.render []), .str ("Description: " ++ purpose w)] : List Json).take
          caps.maxDispatchLines.val := by
  rcases submit_of_called now (nameLine name) s .workflow (nameCommand name) hcall
    (by simp only [reduceCtorEq, ne_eq, not_false_eq_true]) with ⟨caps, echo, hcaps, hecho, hshown⟩
  rw [perform_nameCommand now s.ready name w hjoined hname hsign hw,
    conclude_lines _ _ _ rfl] at hshown
  refine ⟨caps, echo, _, hcaps, hecho, hshown, fun l hl => ?_, ?_⟩
  · exact makeLines_output _ _ l (List.mem_of_mem_take hl)
  · rw [List.map_take, makeLines_text]
    rfl

theorem executes_of_lines (now : Moment) (s : Session) (raw name : String) (echo : Line)
    (lines : List Line) (texts : List Json) (n : Nat) (hn : 0 < n)
    (h : (s.submit now raw).value.1 = .ok (echo :: lines)) (hecho : echo.kind = .command)
    (hkind : ∀ l ∈ lines, l.kind = .output)
    (htexts : lines.map Line.text = (.str ("Executing workflow: " ++ name) :: texts).take n) :
    s.Executes now raw name := by
  cases n with
  | zero => exact absurd hn (Nat.lt_irrefl 0)
  | succ n =>
      cases lines with
      | nil => exact absurd htexts (by simp only [List.map_nil, List.take_succ_cons, reduceCtorEq,
          not_false_eq_true])
      | cons first rest =>
          rw [List.map_cons, List.take_succ_cons, List.cons.injEq] at htexts
          exact ⟨echo, first, rest, h, hecho, hkind first List.mem_cons_self, htexts.1⟩

/-- A line runs only what has a name without an equals sign. -/
theorem not_executes_of_sign (now : Moment) (s : Session) (name : String)
    (hcall : s.entered? (nameLine name) = some (.workflow, nameCommand name))
    (hkeyed : s.registry.IsKeyed) (hsign : '=' ∈ name.toList) :
    ¬ s.Executes now (nameLine name) name := by
  rintro ⟨echo, first, rest, h, _, hkind, htext⟩
  rcases submit_of_called now (nameLine name) s .workflow (nameCommand name) hcall
    (by simp only [reduceCtorEq, ne_eq, not_false_eq_true]) with ⟨caps, _, _, _, hshown⟩
  rw [h, Except.ok.injEq, List.cons.injEq] at hshown
  have hfirst : ((conclude (nameCommand name)
      (s.ready.perform now .workflow (nameCommand name))).value.1).head? = some first := by
    have hhead := congrArg List.head? hshown.2
    rw [List.head?_cons, List.head?_take, if_neg (Nat.pos_iff_ne_zero.mp caps.maxDispatchLines.pos)]
      at hhead
    exact hhead.symm
  rcases head_of_conclude _ _ first hfirst hkind with ⟨texts, hlines⟩
  rcases exists_of_perform_workflow now s.ready (nameCommand name) first.text texts hlines with
    ⟨w, hw, hown⟩
  -- The workflow that was run has the name, and is stored under what was looked up.
  have hname : w.name = name := by
    rw [htext, Json.str.injEq] at hown
    have hnames := congrArg String.toList hown
    rw [String.toList_append, String.toList_append] at hnames
    exact String.toList_inj.mp (List.append_cancel_left hnames).symm
  have hkey := hkeyed.key_of_get? _ w hw
  rw [Workflow.key, hname] at hkey
  refine signless_lookup (nameCommand name).args ((sign_mem_lowered _).mp ?_)
  rw [← hkey]
  exact (sign_mem_lowered name).mpr hsign

/-! ### Runs -/

/-- A session as any run leaves it, in which the `workflow` command runs under its
    name and that name is no alias. A line of it loads a workflow and answers with
    the name. The next line calls `workflow` with that name, which is words with
    single blanks between them. If there is no equals sign in it, the workflow
    that was just loaded is run, with nothing given for its placeholders. If one
    of the words is a key with a value, no workflow with that name is run. -/
theorem loaded_runs_by_name (id : String) (c : Config) (isWatching : Bool) (start : Moment)
    (new : Session) (hnew : ofConfig id c isWatching start = .ok new) (turns : List Turn)
    (hworkflow : (turns.foldl turn new).handler? "workflow" = some (.builtin .workflow))
    (halias : Fields.get? (turns.foldl turn new).shell.profile.aliases "workflow" = none)
    (now : Moment) (raw : String) (load : Command) (name : String) (rest : List String)
    (hcall : (turns.foldl turn new).entered? raw = some (.loadWorkflow, load))
    (hloaded : ((turns.foldl turn new).perform now .loadWorkflow load).value.1 =
      .texts (("Loaded workflow: " ++ name) :: rest))
    (hjoined : IsJoined name) (later : Moment) :
    let s := turns.foldl turn new
    let s' := (s.submit now raw).value.2
    ('=' ∉ name.toList → s'.Executes later (nameLine name) name ∧
      ∃ path text w events caps echo lines, load.first? = some path ∧
        s.files.read? path = some text ∧ Workflow.read text = .ok ⟨some w, events⟩ ∧
        w.name = name ∧ s'.config.lineCaps = .ok caps ∧
        (s'.submit later (nameLine name)).value.1 = .ok (echo :: lines) ∧
        lines.map Line.text = ([.str ("Executing workflow: " ++ w.name),
          .str ("Command: " ++ w.render []), .str ("Description: " ++ purpose w)] : List Json).take
            caps.maxDispatchLines.val) ∧
    (HasPair name → ¬ s'.Executes later (nameLine name) name) := by
  intro s s'
  rcases workflow_of_answer now load s name rest hloaded with
    ⟨path, text, w, events, hpath, htext, hread, hname⟩
  rcases submit_loadWorkflow now raw s load path text w events hcall hpath htext hread with
    ⟨hregistry, hshell, hconfig, hhandlers⟩
  have hphrase : Text.IsPhrase name.toList := by
    refine isPhrase_of_isJoined name hjoined ?_
    rw [← hname]
    exact name_ne_empty text w events hread
  have hown : s.RunsOwn := by
    refine RunsOwn.turns (runsOwn_of_handlers new ?_) turns
    exact ofConfig_handlers id c isWatching start new hnew
  have hnext := entered?_nameLine s s' raw load name hown hcall hworkflow halias hshell hconfig
    hhandlers hphrase
  refine ⟨fun hsign => ?_, fun hpair => ?_⟩
  · have hfound : s'.registry.get? name = some w := by
      rw [hregistry, Registry.get?, Registry.workflows_store, Fields.get?_set, Workflow.key, hname,
        if_pos rfl]
    rcases submit_nameLine later s' name w hnext hjoined hphrase hsign hfound with
      ⟨caps, echo, lines, hcaps, hecho, hshown, hkind, htexts⟩
    refine ⟨?_, path, text, w, events, caps, echo, lines, hpath, htext, hread, hname, hcaps,
      hshown, htexts⟩
    rw [hname] at htexts
    exact executes_of_lines later s' (nameLine name) name echo lines _ _ caps.maxDispatchLines.pos
      hshown hecho hkind htexts
  · rcases hpair with ⟨word, hword, hsign, _⟩
    refine not_executes_of_sign later s' name hnext ?_
      (Text.mem_of_mem_words name.toList word hword '=' hsign)
    rw [hregistry]
    exact (isKeyed_turns id c isWatching start new hnew turns).store w

/-- The parts of a line that loads a workflow. -/
def loadingWorkflow : Command where
  name := "load-workflow"
  args := ["w.yml"]
  line := "load-workflow w.yml"
  remainder := "w.yml"

/-- A name of two words, with capitals. -/
theorem loaded_runs_by_name_words :
    ∃ s, s = [onlyFile "w.yml" "name: My List\ncommand: ls"].foldl turn untouched ∧
      IsJoined "My List" ∧
      (s.submit noon "load-workflow w.yml").value.2.Executes noon (nameLine "My List")
        "My List" := by
  have hnew : ofConfig "1" {} false noon = .ok untouched := by rfl
  have hread : (Workflow.read "name: My List\ncommand: ls").toOption.bind Traced.value =
      some { name := "My List", command := "ls" } := by decide +kernel
  rcases Schema.exists_ok_of_value hread with ⟨events, hread⟩
  have hloaded := perform_loadWorkflow noon loadingWorkflow
    ([onlyFile "w.yml" "name: My List\ncommand: ls"].foldl turn untouched) "w.yml"
    "name: My List\ncommand: ls" _ events (by decide +kernel) (by decide +kernel) hread
  have hjoined : IsJoined "My List" := by decide +kernel
  refine ⟨_, rfl, hjoined, ?_⟩
  exact ((loaded_runs_by_name "1" {} false noon untouched hnew
    [onlyFile "w.yml" "name: My List\ncommand: ls"] rfl rfl noon "load-workflow w.yml"
    loadingWorkflow "My List" _ rfl (congrArg Prod.fst hloaded) hjoined noon).1 (by decide)).1

/-- A word of a name is a key with a value. The workflow is loaded and answers with
    its name, and the next line does not run it. -/
theorem pair_in_name :
    ∃ s, s = [onlyFile "w.yml" "name: k=v\ncommand: ls"].foldl turn untouched ∧
      s.handler? "workflow" = some (.builtin .workflow) ∧
      Fields.get? s.shell.profile.aliases "workflow" = none ∧
      s.entered? "load-workflow w.yml" = some (.loadWorkflow, loadingWorkflow) ∧
      (s.perform noon .loadWorkflow loadingWorkflow).value.1 =
        .texts ["Loaded workflow: k=v", "Description: No description", "Command: ls"] ∧
      ¬ (s.submit noon "load-workflow w.yml").value.2.Executes noon (nameLine "k=v") "k=v" := by
  have hread : (Workflow.read "name: k=v\ncommand: ls").toOption.bind Traced.value =
      some { name := "k=v", command := "ls" } := by decide +kernel
  rcases Schema.exists_ok_of_value hread with ⟨events, hread⟩
  have hfirst : loadingWorkflow.first? = some "w.yml" := by decide +kernel
  have hcall : ([onlyFile "w.yml" "name: k=v\ncommand: ls"].foldl turn untouched).entered?
      "load-workflow w.yml" = some (.loadWorkflow, loadingWorkflow) := by rfl
  have htext : ([onlyFile "w.yml" "name: k=v\ncommand: ls"].foldl turn untouched).files.read?
      "w.yml" = some "name: k=v\ncommand: ls" := by decide +kernel
  refine ⟨_, rfl, rfl, rfl, hcall, ?_, ?_⟩
  · rw [perform_loadWorkflow noon loadingWorkflow _ "w.yml" _ _ events hfirst htext hread]
    rfl
  · rcases submit_loadWorkflow noon _ _ loadingWorkflow "w.yml" _ _ events hcall hfirst htext hread
      with ⟨hregistry, hshell, hconfig, hhandlers⟩
    refine not_executes_of_sign noon _ "k=v" ?_ ?_ (by decide)
    · exact entered?_nameLine _ _ _ loadingWorkflow "k=v" (runsOwn_of_handlers _ rfl) hcall rfl rfl
        hshell hconfig hhandlers (Text.isWord_of_any _ (by decide) rfl).isPhrase
    · rw [hregistry]
      exact Registry.standard_isKeyed.store _

end Session

end SimTerm
