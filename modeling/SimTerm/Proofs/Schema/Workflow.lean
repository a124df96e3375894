import SimTerm.Proofs.Schema.Decision
import SimTerm.Proofs.Yaml.Hexadecimal

/-!
# Documents that Write Workflows

Which documents write a workflow, and which one.

`Writes` says what the entries of a document have to be for a workflow to come
of them, field by field and without regard to the order in which the fields are
read. That the reader gives just that workflow (`decides_ofEntries`) is put
together from the readers of its fields. It breaks off only if something that it
takes cannot be shown.

The relation has the class of values that may stand for a text as a parameter,
and the class matters only for the values that a workflow takes
(`Writes.mono`). So what is known of these values, and of no others in the
document, makes one class as good as another. In a document of mappings,
sequences and scalars the values that are neither lists nor mappings are the
scalars, and what cannot be shown is whole numbers with too many digits. There
the workflow that is written with scalars is what comes of the text
(`workflow_read_iff`), and with such a number the reading breaks off
(`workflow_reading_breaks`).

## Main definitions

* `Workflow.Writes`: The entries of a document write a workflow.
* `Workflow.Takes`: A value stands where a workflow takes a text.
* `Workflow.Shown`: All that a workflow takes can be shown.
* `Workflow.IsWrittenBy`, `Workflow.IsShort`: The same of a whole document.

## Theorems

* `Workflow.decides_ofEntries`: What the entries of a document give.
* `Workflow.Writes.holds`, `Workflow.Writes.mono`: The values that a workflow
  takes are of the class, and no others count.
* `workflow_read_iff`: What comes of a text.
* `workflow_reading_breaks`: A document that is not refused.
-/

namespace SimTerm

namespace Workflow

open Schema
open Yaml (Value)

/-- The fields that hold one text. -/
def textKeys : List String :=
  ["name", "command", "description", "source_url", "author", "author_url"]

/-- The fields that hold some texts. -/
def listKeys : List String := ["tags", "shells"]

/-- The fields of an argument. -/
def argumentKeys : List String := ["name", "description", "default_value"]

/-- The key that a document declares arguments under. The short one counts only
    if the long one is not there at all. -/
def argumentsKey (data : Entries) : String :=
  if (Value.lookup? data "arguments").isSome then "arguments" else "args"

/-- The entries of a mapping declare an argument. -/
structure Declares (P : Value → Prop) (entry : Entries) (a : WorkflowArgument) : Prop where
  name : TextIn P entry "name" (some a.name)
  filled : IsFilled a.name
  description : TextIn P entry "description" a.description
  defaultValue : TextIn P entry "default_value" a.defaultValue

/-- A value declares some arguments, one with each mapping in a list. -/
inductive DeclaresAll (P : Value → Prop) : Value → List WorkflowArgument → Prop where
  | items (node : Nat) (items : List Value) (as : List WorkflowArgument)
      (h : List.Forall₂ (fun v a => ∃ inner entry, v = .mapping inner entry ∧ Declares P entry a)
        items as) : DeclaresAll P (.sequence node items) as
  | row (node : Nat) : DeclaresAll P (.pairs node []) []

/-- A document declares some arguments, or it says nothing about any. -/
inductive ArgumentsIn (P : Value → Prop) (data : Entries) : List WorkflowArgument → Prop where
  | absent (h : field? data (argumentsKey data) = none) : ArgumentsIn P data []
  | present (v : Value) (as : List WorkflowArgument) (h : field? data (argumentsKey data) = some v)
      (has : DeclaresAll P v as) : ArgumentsIn P data as

/-- The entries of a document write a workflow: its texts are those of values of
    the class `P`, what it needs is there and not blank, and its shells are known. -/
structure Writes (P : Value → Prop) (rows : Prop) (data : Entries) (w : Workflow) : Prop where
  name : TextIn P data "name" (some w.name)
  nameFilled : IsFilled w.name
  command : TextIn P data "command" (some w.command)
  commandFilled : IsFilled w.command
  description : TextIn P data "description" w.description
  tags : TextsIn P rows data "tags" w.tags
  shells : ∃ names, TextsIn P rows data "shells" names ∧ w.shells = names.map lowered
  known : ∀ shell ∈ w.shells, shell ∈ Persona.names
  arguments : ArgumentsIn P data w.arguments
  sourceUrl : TextIn P data "source_url" w.sourceUrl
  author : TextIn P data "author" w.author
  authorUrl : TextIn P data "author_url" w.authorUrl

/-- A value stands where a workflow takes a text, under a key of the document:
    in a field of its own, in one of its lists, or in a field of one of its
    arguments. -/
inductive Takes (data : Entries) : String → Value → Prop where
  | field (key : String) (v : Value) (hkey : key ∈ textKeys) (h : field? data key = some v) :
      Takes data key v
  | item (key : String) (node : Nat) (items : List Value) (v : Value) (hkey : key ∈ listKeys)
      (h : field? data key = some (.sequence node items)) (hv : v ∈ items) : Takes data key v
  | argument (node inner : Nat) (items : List Value) (entry : Entries) (key : String) (v : Value)
      (h : field? data (argumentsKey data) = some (.sequence node items))
      (hentry : .mapping inner entry ∈ items) (hkey : key ∈ argumentKeys)
      (hv : field? entry key = some v) : Takes data (argumentsKey data) v

/-- All that a workflow takes can be shown. -/
structure Shown (data : Entries) : Prop where
  texts : ∀ key v, Takes data key v → v.IsFlat → v.IsShown
  rows : ∀ key ∈ listKeys, ∀ node entries, field? data key = some (.pairs node entries) →
    ∃ ts, Value.pairTexts node entries = .ok ts

theorem argumentsField?_eq (data : Entries) :
    argumentsField? data = field? data (argumentsKey data) := by
  have hlookup : (Value.lookup? data "arguments").or (Value.lookup? data "args") =
      Value.lookup? data (argumentsKey data) := by
    unfold argumentsKey
    cases h : Value.lookup? data "arguments" with
    | none => rw [Option.none_or, Option.isSome_none, if_neg Bool.false_ne_true]
    | some v => rw [Option.some_or, Option.isSome_some, if_pos rfl, h]
  unfold argumentsField? field?
  exact hlookup ▸ rfl

/-- The fields of an argument can be shown. -/
def ArgumentShown (v : Value) : Prop :=
  ∀ inner entry, v = .mapping inner entry → ∀ key ∈ argumentKeys, ShownIn entry key

/-- The fields of all arguments can be shown. -/
def ArgumentsShownIn (data : Entries) : Prop :=
  ∀ node items, field? data (argumentsKey data) = some (.sequence node items) →
    ∀ v ∈ items, ArgumentShown v

theorem decides_argumentOf (v : Value) :
    Decides (ArgumentShown v) (argumentOf v)
      (fun a => ∃ inner entry, v = .mapping inner entry ∧ Declares Value.IsFlat entry a) := by
  unfold argumentOf
  split
  case h_1 inner entry =>
    have hall := (decides_required entry "name").bind fun name _ =>
      (decides_scalar entry "description").bind fun description _ =>
        (decides_scalar entry "default_value").bind fun defaultValue _ =>
          .pure (WorkflowArgument.mk name description defaultValue)
    refine hall.congr ?_ fun a => ⟨?_, ?_⟩
    · have hkeys : ArgumentShown (.mapping inner entry) ↔ ∀ key ∈ argumentKeys, ShownIn entry key :=
        ⟨fun h => h inner entry rfl, fun h _ _ heq => (Value.mapping.inj heq).2 ▸ h⟩
      rw [hkeys]
      simp only [argumentKeys, List.forall_mem_cons, List.not_mem_nil, false_implies,
        implies_true]
    · rintro ⟨name, ⟨hname, hfilled⟩, description, hdescription, defaultValue, hdefault, rfl⟩
      exact ⟨inner, entry, rfl, hname, hfilled, hdescription, hdefault⟩
    · rintro ⟨_, _, heq, h⟩
      cases heq
      exact ⟨a.name, ⟨h.name, h.filled⟩, a.description, h.description, a.defaultValue,
        h.defaultValue, rfl⟩
  case h_2 h =>
    refine .refused ?_
    rintro a ⟨inner, entry, rfl, _⟩
    exact h inner entry rfl

theorem argumentsIn_of_present {P : Value → Prop} {data : Entries} {v : Value}
    (h : field? data (argumentsKey data) = some v) (as : List WorkflowArgument) :
    ArgumentsIn P data as ↔ DeclaresAll P v as := by
  constructor
  · rintro (hnone | ⟨w, _, hw, has⟩)
    · exact absurd (h.symm.trans hnone) (Option.some_ne_none v)
    · exact Option.some.inj (h.symm.trans hw) ▸ has
  · exact .present v as h

/-- The declared arguments of a document. -/
theorem decides_argumentsOf (data : Entries) :
    Decides (ArgumentsShownIn data) (argumentsOf data) (ArgumentsIn Value.IsFlat data) := by
  unfold argumentsOf
  rw [argumentsField?_eq]
  -- Only a list has values that are shown.
  have hshown : ∀ o, field? data (argumentsKey data) = o →
      (∀ node items, o ≠ some (.sequence node items)) → ArgumentsShownIn data :=
    fun o ho hno node items h => absurd (ho.symm.trans h) (hno node items)
  split
  case h_1 hfield =>
    refine .ok (hshown _ hfield fun _ _ => (Option.some_ne_none _).symm) fun as => ⟨?_, ?_⟩
    · rintro (_ | ⟨v, _, hv, _⟩)
      · rfl
      · exact absurd (hfield.symm.trans hv) (Option.some_ne_none v).symm
    · rintro rfl
      exact .absent hfield
  case h_2 node items hfield =>
    have hall := Decides.mapM fun v (_ : v ∈ items) => decides_argumentOf v
    refine hall.congr ⟨fun h _ _ heq => ?_, fun h => h node items hfield⟩ fun as => ?_
    · cases Option.some.inj (hfield.symm.trans heq)
      exact h
    · rw [argumentsIn_of_present hfield]
      refine ⟨.items node items as, ?_⟩
      rintro ⟨_, _, _, h⟩
      exact h
  case h_3 node hfield =>
    refine .ok (hshown _ hfield fun _ _ => by simp only [ne_eq, reduceCtorEq, not_false_eq_true,
      Option.some.injEq]) fun as => ?_
    rw [argumentsIn_of_present hfield]
    refine ⟨?_, ?_⟩
    · rintro (_ | _)
      rfl
    · rintro rfl
      exact .row node
  case h_4 node entries hne hfield =>
    refine .refused fun as h => ?_
    cases (argumentsIn_of_present hfield as).mp h with
    | row => exact hne rfl
  case h_5 v hsequence _ hpairs hfield =>
    refine .refused fun as h => ?_
    cases (argumentsIn_of_present hfield as).mp h with
    | items node items => exact hsequence node items rfl
    | row node => exact hpairs node [] rfl

/-- The shells of a document, all of which have to be known. -/
theorem decides_shellsOf (data : Entries) :
    Decides (ItemsShownIn data "shells") (shellsOf data)
      (fun shells => (∃ names, TextsIn Value.IsFlat True data "shells" names ∧
        shells = names.map lowered) ∧ ∀ shell ∈ shells, shell ∈ Persona.names) := by
  have hread := decides_texts data "shells"
  unfold shellsOf
  split
  case h_1 e he =>
    rw [he] at hread
    exact hread.error id fun shells h => h.1.imp fun _ => And.left
  case h_2 names hnames =>
    rw [hnames] at hread
    have honly : ∀ shells, (∃ names, TextsIn Value.IsFlat True data "shells" names ∧
        shells = names.map lowered) ↔ shells = names.map lowered := fun shells =>
      ⟨fun ⟨ns, hns, heq⟩ => (hread.2 ns).mp hns ▸ heq, fun heq => ⟨names, hread.given, heq⟩⟩
    dsimp only
    split
    case h_1 hunknown =>
      have hknown : ∀ shell ∈ names.map lowered, shell ∈ Persona.names := fun shell hshell => by
        simpa using List.filter_eq_nil_iff.mp hunknown shell hshell
      refine .ok hread.1 fun shells => ⟨fun h => (honly shells).mp h.1, ?_⟩
      rintro rfl
      exact ⟨(honly _).mpr rfl, hknown⟩
    case h_2 hunknown =>
      -- Some name among them is not known.
      refine .refused fun shells h => hunknown (List.filter_eq_nil_iff.mpr fun shell hshell => ?_)
      have hknown := h.2 shell ((honly shells).mp h.1 ▸ hshell)
      simpa using hknown

theorem shown_iff (data : Entries) :
    Shown data ↔ (∀ key ∈ textKeys, ShownIn data key) ∧
      (∀ key ∈ listKeys, ItemsShownIn data key) ∧ ArgumentsShownIn data := by
  constructor
  · rintro ⟨htexts, hrows⟩
    refine ⟨fun key hkey v hv => htexts key v (.field key v hkey hv), fun key hkey v hv => ?_,
      fun node items hitems v hv inner entry heq key hkey w hw => ?_⟩
    · -- A field for a list may hold a text as well, which can always be shown.
      cases v with
      | sequence node items => exact fun w hw => htexts key w (.item key node items w hkey hv hw)
      | pairs node entries => exact hrows key hkey node entries hv
      | _ => exact trivial
    · exact htexts _ w (.argument node inner items entry key w hitems (heq ▸ hv) hkey hw)
  · rintro ⟨htexts, hlists, harguments⟩
    refine ⟨fun key v hv => ?_, fun key hkey node entries h => hlists key hkey _ h⟩
    cases hv with
    | field _ _ hkey h => exact htexts key hkey v h
    | item _ node items _ hkey h hv => exact hlists key hkey _ h v hv
    | argument node inner items entry key _ h hentry hkey hv =>
        exact harguments node items h _ hentry inner entry rfl key hkey v hv

/-- The entries of a document give the workflow that they write. -/
theorem decides_ofEntries (data : Entries) :
    Decides (Shown data) (ofEntries data) (Writes Value.IsFlat True data) := by
  -- In the order in which the fields are read, which decides how a broken document ends.
  have hall := (decides_shellsOf data).bind fun shells _ =>
    (decides_required data "name").bind fun name _ =>
    (decides_required data "command").bind fun command _ =>
    (decides_scalar data "description").bind fun description _ =>
    (decides_texts data "tags").bind fun tags _ =>
    (decides_argumentsOf data).bind fun arguments _ =>
    (decides_scalar data "source_url").bind fun sourceUrl _ =>
    (decides_scalar data "author").bind fun author _ =>
    (decides_scalar data "author_url").bind fun authorUrl _ =>
      .pure (Workflow.mk name command description tags shells arguments sourceUrl author authorUrl)
  unfold ofEntries
  refine hall.congr ?_ fun w => ⟨?_, fun h => ?_⟩
  · rw [shown_iff]
    simp only [textKeys, listKeys, List.forall_mem_cons, List.not_mem_nil, false_implies,
      implies_true]
    tauto
  · rintro ⟨shells, ⟨hshells, hknown⟩, name, ⟨hname, hnameFilled⟩, command,
      ⟨hcommand, hcommandFilled⟩, description, hdescription, tags, htags, arguments, harguments,
      sourceUrl, hsourceUrl, author, hauthor, authorUrl, hauthorUrl, rfl⟩
    exact ⟨hname, hnameFilled, hcommand, hcommandFilled, hdescription, htags, hshells, hknown,
      harguments, hsourceUrl, hauthor, hauthorUrl⟩
  · exact ⟨w.shells, ⟨h.shells, h.known⟩, w.name, ⟨h.name, h.nameFilled⟩, w.command,
      ⟨h.command, h.commandFilled⟩, w.description, h.description, w.tags, h.tags, w.arguments,
      h.arguments, w.sourceUrl, h.sourceUrl, w.author, h.author, w.authorUrl, h.authorUrl, rfl⟩

/-! ### What a workflow takes -/

section

variable {P Q : Value → Prop} {rows rows' : Prop} {data : Entries} {w : Workflow}

theorem Declares.textIn {entry : Entries} {a : WorkflowArgument} (h : Declares P entry a) :
    ∀ key ∈ argumentKeys, ∃ o, TextIn P entry key o := by
  simp only [argumentKeys, List.forall_mem_cons, List.not_mem_nil, false_implies, implies_true,
    and_true]
  exact ⟨⟨_, h.name⟩, ⟨_, h.description⟩, ⟨_, h.defaultValue⟩⟩

theorem Writes.textIn (h : Writes P rows data w) : ∀ key ∈ textKeys, ∃ o, TextIn P data key o := by
  simp only [textKeys, List.forall_mem_cons, List.not_mem_nil, false_implies, implies_true,
    and_true]
  exact ⟨⟨_, h.name⟩, ⟨_, h.command⟩, ⟨_, h.description⟩, ⟨_, h.sourceUrl⟩, ⟨_, h.author⟩,
    ⟨_, h.authorUrl⟩⟩

theorem Writes.textsIn (h : Writes P rows data w) :
    ∀ key ∈ listKeys, ∃ ts, TextsIn P rows data key ts := by
  simp only [listKeys, List.forall_mem_cons, List.not_mem_nil, false_implies, implies_true,
    and_true]
  exact ⟨⟨_, h.tags⟩, h.shells.imp fun _ => And.left⟩

theorem Writes.declares (h : Writes P rows data w) {node : Nat} {items : List Value}
    (hfield : field? data (argumentsKey data) = some (.sequence node items)) {inner : Nat}
    {entry : Entries} (hentry : .mapping inner entry ∈ items) : ∃ a, Declares P entry a := by
  cases (argumentsIn_of_present hfield w.arguments).mp h.arguments with
  | items _ _ _ hall =>
      have heach : ∀ v ∈ items, ∃ a inner entry, v = .mapping inner entry ∧ Declares P entry a :=
        ((List.forall₂_and_left items _).mp (List.Forall₂.imp (fun _ a ha => ⟨⟨a, ha⟩, ha⟩) hall)).1
      rcases heach _ hentry with ⟨a, _, _, heq, ha⟩
      cases heq
      exact ⟨a, ha⟩

/-- All that a document holds where a workflow takes a text is of the class. -/
theorem Writes.holds (h : Writes P rows data w) {key : String} {v : Value}
    (hv : Takes data key v) : P v := by
  cases hv with
  | field _ _ hkey hv => exact (h.textIn key hkey).elim fun _ htext => htext.holds hv
  | item _ node items _ hkey hitems hv =>
      rcases h.textsIn key hkey with ⟨ts, htexts⟩
      cases htexts.holds hitems with
      | items _ _ hall => exact hall v hv
  | argument node inner items entry key _ hitems hentry hkey hv =>
      rcases h.declares hitems hentry with ⟨a, ha⟩
      exact (ha.textIn key hkey).elim fun _ htext => htext.holds hv

theorem Declares.mono {entry : Entries} {a : WorkflowArgument} (h : Declares P entry a)
    (hP : ∀ key ∈ argumentKeys, ∀ v, field? entry key = some v → P v → Q v) :
    Declares Q entry a where
  name := h.name.mono (hP _ (by simp [argumentKeys]))
  filled := h.filled
  description := h.description.mono (hP _ (by simp [argumentKeys]))
  defaultValue := h.defaultValue.mono (hP _ (by simp [argumentKeys]))

theorem ArgumentsIn.mono {as : List WorkflowArgument} (h : ArgumentsIn P data as)
    (hP : ∀ v, Takes data (argumentsKey data) v → P v → Q v) : ArgumentsIn Q data as := by
  rcases h with hnone | ⟨v, _, hfield, has⟩
  · exact .absent hnone
  · refine .present v as hfield ?_
    cases has with
    | row node => exact .row node
    | items node items _ hall =>
        -- What an argument takes counts only because its mapping is in the list.
        have hmembers := (List.forall₂_and_left items as).mpr
          ⟨fun v (hv : v ∈ items) => hv, hall⟩
        refine .items node items as (List.Forall₂.imp ?_ hmembers)
        rintro v a ⟨hv, inner, entry, rfl, ha⟩
        exact ⟨inner, entry, rfl, ha.mono fun key hkey w hw =>
          hP w (.argument node inner items entry key w hfield hv hkey hw)⟩

/-- The class of values matters only where a workflow takes one. -/
theorem Writes.mono (h : Writes P rows data w) (hP : ∀ key v, Takes data key v → P v → Q v)
    (hrows : ∀ key ∈ listKeys, ∀ node entries, field? data key = some (.pairs node entries) →
      entries ≠ [] → rows → rows') : Writes Q rows' data w := by
  have htext : ∀ key ∈ textKeys, ∀ o, TextIn P data key o → TextIn Q data key o :=
    fun key hkey o ho => ho.mono fun v hv => hP key v (.field key v hkey hv)
  have htexts : ∀ key ∈ listKeys, ∀ ts, TextsIn P rows data key ts → TextsIn Q rows' data key ts :=
    fun key hkey ts hts => hts.mono
      (fun node items hitems v hv => hP key v (.item key node items v hkey hitems hv))
      (hrows key hkey)
  exact {
    name := htext _ (by simp [textKeys]) _ h.name
    nameFilled := h.nameFilled
    command := htext _ (by simp [textKeys]) _ h.command
    commandFilled := h.commandFilled
    description := htext _ (by simp [textKeys]) _ h.description
    tags := htexts _ (by simp [listKeys]) _ h.tags
    shells := h.shells.imp fun names hnames => ⟨htexts _ (by simp [listKeys]) _ hnames.1, hnames.2⟩
    known := h.known
    arguments := h.arguments.mono fun v => hP _ v
    sourceUrl := htext _ (by simp [textKeys]) _ h.sourceUrl
    author := htext _ (by simp [textKeys]) _ h.author
    authorUrl := htext _ (by simp [textKeys]) _ h.authorUrl }

end

/-! ### Plain documents -/

/-- A workflow is what a document writes. -/
def IsWrittenBy (P : Value → Prop) (rows : Prop) (v : Value) (w : Workflow) : Prop :=
  IsMappingOf v (Writes P rows · w)

/-- No whole number that a document holds where a workflow takes a text has more
    digits than a number that is shown may have. -/
def IsShort (v : Value) : Prop :=
  ∀ node data, v = .mapping node data →
    ∀ key n, Takes data key (.int n) → n.natAbs < 10 ^ Text.maxDigits

theorem Takes.isPlain {data : Entries} {key : String} {v : Value} (h : Takes data key v)
    (hdata : ∀ e ∈ data, e.2.IsPlain) : v.IsPlain := by
  cases h with
  | field _ _ _ h => exact isPlain_of_field? hdata h
  | item _ node items _ _ h hv => exact (isPlain_of_field? hdata h).of_mem_sequence v hv
  | argument node inner items entry key _ h hentry _ hv =>
      have hmapping := (isPlain_of_field? hdata h).of_mem_sequence _ hentry
      exact isPlain_of_field? hmapping.of_mem_mapping hv

theorem shown_iff_isShort (data : Entries) (hdata : ∀ e ∈ data, e.2.IsPlain) :
    Shown data ↔ ∀ key n, Takes data key (.int n) → n.natAbs < 10 ^ Text.maxDigits := by
  have htexts := fun key => shown_iff_short fun v (h : Takes data key v) => h.isPlain hdata
  exact ⟨fun h key => (htexts key).mp (h.texts key), fun h =>
    ⟨fun key => (htexts key).mpr (h key), fun _ _ node entries hpairs =>
      absurd hpairs (field?_ne_pairs hdata node entries)⟩⟩

/-- In a plain document the values that are taken as texts are the scalars. -/
theorem writes_iff_isScalar (data : Entries) (hdata : ∀ e ∈ data, e.2.IsPlain) (w : Workflow) :
    Writes Value.IsFlat True data w ↔ Writes Value.IsScalar False data w := by
  refine ⟨fun h => h.mono (fun key v hv => ((hv.isPlain hdata).isScalar_iff).mpr) ?_,
    fun h => h.mono (fun key v _ => Value.IsScalar.isFlat) fun _ _ _ _ _ _ => False.elim⟩
  exact fun key _ node entries hpairs => absurd hpairs (field?_ne_pairs hdata node entries)

end Workflow

namespace Schema

open Yaml (Value)

/-- What a text gives that is a plain document. It gives exactly the workflow
    that it writes, and if it writes none it is refused, so long as it has no
    whole number with too many digits in the place of a text. With such a number
    the workflow that it writes does not come of it. -/
theorem workflow_read_iff (text : String) (v : Value) (hv : Value.ofText text.toList = .ok v)
    (hplain : v.IsPlain) :
    (∀ w, Workflow.read text = .ok ⟨some w, []⟩ ↔
        Workflow.IsWrittenBy Value.IsScalar False v w ∧ Workflow.IsShort v) ∧
      (Workflow.IsShort v → (∀ w, ¬ Workflow.IsWrittenBy Value.IsScalar False v w) →
        ∃ reason, Workflow.read text = .ok ⟨none, [.workflowRejected reason]⟩) ∧
      (¬ Workflow.IsShort v → ∀ w, Workflow.IsWrittenBy Value.IsScalar False v w →
        ∃ c, Workflow.read text = .error c) := by
  have hread := decides_ofText hv Workflow.decides_ofEntries
  have hentries : ∀ node data, v = .mapping node data → ∀ e ∈ data, e.2.IsPlain :=
    fun node data heq => (heq ▸ hplain).of_mem_mapping
  refine (hread.congr ?_ fun w => ?_).settles Event.workflowRejected
  · exact forall_congr' fun node => forall_congr' fun data => forall_congr' fun heq =>
      Workflow.shown_iff_isShort data (hentries node data heq)
  · exact exists_congr fun node => exists_congr fun data => and_congr_right fun heq =>
      Workflow.writes_iff_isScalar data (hentries node data heq) w

/-- A tag that is nothing is written out, and a shell is found in small letters. -/
theorem workflow_read_iff_tagged :
    ∃ v, Value.ofText "name: ls\ncommand: ls -l\ntags: [a, null]\nshells: BASH".toList = .ok v ∧
      v.IsPlain ∧ Workflow.IsWrittenBy Value.IsScalar False v
        { name := "ls", command := "ls -l", tags := ["a", "None"], shells := ["bash"] } ∧
      Workflow.IsShort v := by
  rcases exists_value "name: ls\ncommand: ls -l\ntags: [a, null]\nshells: BASH" Value.isPlain
    Workflow.ofValue { name := "ls", command := "ls -l", tags := ["a", "None"], shells := ["bash"] }
    (by decide +kernel) with ⟨v, hv, hplain, hread⟩
  have hplain := Value.IsPlain.of_isPlain v hplain
  exact ⟨v, hv, hplain, ((workflow_read_iff _ v hv hplain).1 _).mp
    (congrArg (accepted Event.workflowRejected) hread)⟩

/-- The reading breaks off at a long number for a name, whatever else is missing. -/
theorem read_of_long_name {text : String} {n : Int} (hn : ¬ n.natAbs < 10 ^ Text.maxDigits)
    (hv : Value.ofText text.toList = .ok (.mapping 0 [(.text "name", .int n)])) :
    Workflow.read text = .error (.conversion .badNumber) := by
  have hname : required [(.text "name", .int n)] "name" =
      .error (.halted (.conversion .badNumber)) := required_long rfl hn
  have hbroken : Workflow.ofValue (.mapping 0 [(.text "name", .int n)]) =
      .error (.halted (.conversion .badNumber)) := by
    change Workflow.ofEntries [(.text "name", .int n)] = _
    unfold Workflow.ofEntries
    rw [hname]
    rfl
  rw [Workflow.read, Workflow.ofText, valueOf_bind hv, hbroken]
  rfl

/-- A document of a long number for a name, which has no command, writes no
    workflow, and it is not refused. -/
theorem workflow_reading_breaks :
    Value.ofText (String.ofList (Yaml.nameText 3572)).toList =
        .ok (.mapping 0 [(.text "name", .int Yaml.longNumber)]) ∧
      (Value.mapping 0 [(.text "name", .int Yaml.longNumber)]).IsPlain ∧
      (∀ w, ¬ Workflow.IsWrittenBy Value.IsScalar False
        (.mapping 0 [(.text "name", .int Yaml.longNumber)]) w) ∧
      Workflow.read (String.ofList (Yaml.nameText 3572)) = .error (.conversion .badNumber) := by
  have hv : Value.ofText (String.ofList (Yaml.nameText 3572)).toList =
      .ok (.mapping 0 [(.text "name", .int Yaml.longNumber)]) := by
    rw [String.toList_ofList]
    exact Value.ofText_longName
  refine ⟨hv, .of_isPlain _ rfl, ?_, read_of_long_name Yaml.longNumber_too_long hv⟩
  rintro w ⟨_, _, heq, h⟩
  cases heq
  have hcommand := (textIn_of_absent rfl _).mp h.command
  exact absurd hcommand (Option.some_ne_none _)

end Schema

end SimTerm
