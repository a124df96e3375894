import SimTerm.Proofs.Schema.Theme
import SimTerm.Proofs.Schema.Workflow
import SimTerm.Proofs.Text.Identifier

/-!
# Collections in the Place of Texts

Which collections come into a record although it takes a text there.

A field for a text refuses lists and mappings, so that of all collections just
the sets are left. A list of texts refuses the lists and mappings in it, which
leaves sets again; but a row of pairs is a list, and its pairs are neither lists
nor mappings. The shells are such a list as well, and there neither gets through:
a set is shown between braces or with the name of its kind, a pair between
parentheses, and no name of a shell begins like that (`head_of_shell`).

What is let in is thus known exactly. A record that comes of a document with a
misplaced collection has one that is let in, and a document with none of these
gives a record of scalars or none at all (`collections_refused_iff`). That
something is let in is seen from a set for a name (`reads_set`).

## Main definitions

* `Workflow.Misplaces`, `Theme.Misplaces`: A collection stands for a text.
* `Workflow.LetsIn`, `Theme.LetsIn`: One of those that are let in.

## Theorems

* `wording_not_shell`, `pairTexts_cons`: No set and no pair is taken for a shell.
* `Workflow.Writes.misplaces_iff`, `Theme.Writes.misplaces_iff`: What a document
  that writes a record can have in the place of a text.
* `collections_refused_iff`: What is refused, for every text.
* `reads_set`: A set that is let in.
-/

namespace SimTerm

namespace Schema

open Yaml (Value)

/-- The name of a shell begins with a letter that only some shells begin with. -/
theorem head_of_shell {s : String} {c : Char} {rest : List Char} (hs : s.toList = c :: rest)
    (hc : c.toNat < 128) (h : lowered s ∈ Persona.names) : c.toLower ∈ ['b', 'z', 'f', 'p'] := by
  -- What an ASCII character is lowered to does not depend on its neighbours.
  have hhead : (lowered s).toList.headD ' ' = c.toLower := by
    rw [lowered, String.toList_ofList, hs, ← List.singleton_append,
      Text.lower_append [c] rest (List.forall_mem_singleton.mpr hc)]
    rfl
  have hnames : ∀ name ∈ Persona.names, name.toList.headD ' ' ∈ ['b', 'z', 'f', 'p'] := by
    decide
  exact hhead ▸ hnames _ h

/-- What is shown of a set begins with a brace, or else with the name of its kind. -/
theorem wording_of_set {v : Value} (h : v.shape? = some .set) :
    v.wording = "" ∨ ∃ c rest, v.wording.toList = c :: rest ∧ (c = '\x7b' ∨ c = 's') := by
  cases v with
  | set members =>
      have hwording : (Value.set members).wording =
        ((Value.literalsIn [] members (Json.maxLevels - 1)).map
          fun ls => if ls.isEmpty then "set()" else Value.braced ls).toOption.getD "" := rfl
      rw [hwording]
      cases Value.literalsIn [] members (Json.maxLevels - 1) with
      | error u => exact .inl rfl
      | ok ls =>
          rw [Except.map, Except.toOption, Option.getD_some]
          split
          case isTrue => exact .inr ⟨'s', "et()".toList, by decide, .inr rfl⟩
          case isFalse =>
            refine .inr ⟨'\x7b', (String.intercalate ", " ls ++ "\x7d").toList, ?_, .inl rfl⟩
            rw [Value.braced, String.append_assoc, String.toList_append]
            rfl
  | closed node shape =>
      cases Option.some.inj h
      have hwording : (Value.closed node .set).wording = "set(...)" := rfl
      rw [hwording]
      exact .inr ⟨'s', "et(...)".toList, by decide, .inr rfl⟩
  | _ => exact absurd h (by simp only [Value.shape?, reduceCtorEq, not_false_eq_true,
      Option.some.injEq])

/-- So no set is taken for a shell. -/
theorem wording_not_shell {v : Value} (h : v.shape? = some .set) :
    lowered v.wording ∉ Persona.names := by
  intro hshell
  rcases wording_of_set h with hempty | ⟨c, rest, hs, rfl | rfl⟩
  · rw [hempty] at hshell
    exact absurd hshell (by decide)
  · exact absurd (head_of_shell hs (by decide) hshell) (by decide)
  · exact absurd (head_of_shell hs (by decide) hshell) (by decide)

/-- What is shown of a pair begins with a parenthesis. -/
theorem pairTexts_cons {node : Nat} {e : Value × Value} {rest : List (Value × Value)}
    {ts : List String} (h : Value.pairTexts node (e :: rest) = .ok ts) :
    ∃ t ∈ ts, ∃ cs, t.toList = '(' :: cs := by
  have hcons : Value.pairTexts node (e :: rest) =
      ((Value.literalIn [.pair node 0] e.1 (Json.maxLevels - 1)).bind fun a =>
        (Value.literalIn [.pair node 0] e.2 (Json.maxLevels - 1)).map
          fun b => "(" ++ a ++ ", " ++ b ++ ")").bind
      fun l => (Value.pairLiteralsIn [] node 1 rest Json.maxLevels).map (l :: ·) := rfl
  rw [hcons] at h
  rcases Except.bind_eq_ok _ _ _ h with ⟨t, ht, hts⟩
  rcases Except.map_eq_ok _ _ _ hts with ⟨us, rfl⟩
  rcases Except.bind_eq_ok _ _ _ ht with ⟨a, _, hb⟩
  rcases Except.map_eq_ok _ _ _ hb with ⟨b, rfl⟩
  refine ⟨_, List.mem_cons_self, (a ++ ", " ++ b ++ ")").toList, ?_⟩
  simp only [String.append_assoc, String.toList_append]
  rfl

end Schema

namespace Workflow

open Schema
open Yaml (Value)

/-- A collection stands where a workflow takes a text. A row of pairs stands in
    the place of a list of texts, and each pair in it is one. -/
def Misplaces (data : Entries) : Prop :=
  (∃ key v, Takes data key v ∧ ¬ v.IsScalar) ∨
    ∃ key ∈ listKeys, ∃ node entries, entries ≠ [] ∧ field? data key = some (.pairs node entries)

/-- The collections that are let in as texts: sets, and the pairs in a row that
    stands for the tags. -/
def LetsIn (data : Entries) : Prop :=
  (∃ key v, Takes data key v ∧ key ≠ "shells" ∧ v.shape? = some .set) ∨
    ∃ node entries, entries ≠ [] ∧ field? data "tags" = some (.pairs node entries)

theorem LetsIn.misplaces {data : Entries} (h : LetsIn data) : Misplaces data := by
  rcases h with ⟨key, v, hv, _, hset⟩ | ⟨node, entries, hne, hfield⟩
  · exact .inl ⟨key, v, hv, fun hscalar => hscalar.not_set hset⟩
  · exact .inr ⟨"tags", by simp [listKeys], node, entries, hne, hfield⟩

/-- A plain document has none of them. -/
theorem not_letsIn {data : Entries} (hdata : ∀ e ∈ data, e.2.IsPlain) : ¬ LetsIn data := by
  rintro (⟨key, v, hv, _, hset⟩ | ⟨node, entries, _, hfield⟩)
  · exact (hv.isPlain hdata).not_set hset
  · exact field?_ne_pairs hdata node entries hfield

theorem Writes.shells_isScalar {data : Entries} {w : Workflow}
    (h : Writes Value.IsFlat True data w) {node : Nat} {items : List Value}
    (hfield : field? data "shells" = some (.sequence node items)) : ∀ v ∈ items, v.IsScalar := by
  intro v hv
  rcases h.shells with ⟨names, hnames, hshells⟩
  cases hnames.holds hfield with
  | items _ _ hflat =>
      rcases (Value.isFlat_iff v).mp (hflat v hv) with hscalar | hset
      · exact hscalar
      · refine absurd (h.known _ ?_) (wording_not_shell hset)
        rw [hshells]
        exact List.mem_map_of_mem (List.mem_map_of_mem hv)

theorem Writes.shells_not_pairs {data : Entries} {w : Workflow}
    (h : Writes Value.IsFlat True data w) {node : Nat} {entries : List (Value × Value)}
    (hfield : field? data "shells" = some (.pairs node entries)) : entries = [] := by
  rcases h.shells with ⟨names, hnames, hshells⟩
  cases hnames.holds hfield with
  | row _ _ _ _ hts =>
      cases entries with
      | nil => rfl
      | cons e rest =>
          rcases pairTexts_cons hts with ⟨t, ht, cs, hcs⟩
          have hknown := h.known (lowered t) (hshells ▸ List.mem_map_of_mem ht)
          exact absurd (head_of_shell hcs (by decide) hknown) (by decide)

/-- A workflow is written by a document with misplaced collections only if they
    are let in. -/
theorem Writes.misplaces_iff {data : Entries} {w : Workflow}
    (h : Writes Value.IsFlat True data w) : Misplaces data ↔ LetsIn data := by
  refine ⟨?_, LetsIn.misplaces⟩
  rintro (⟨key, v, hv, hcollection⟩ | ⟨key, hkey, node, entries, hne, hfield⟩)
  · have hset := ((Value.isFlat_iff v).mp (h.holds hv)).resolve_left hcollection
    refine .inl ⟨key, v, hv, fun hshells => ?_, hset⟩
    -- A set may be a field or an item, but no shell.
    cases hv with
    | field _ _ hkey _ => exact absurd (hshells ▸ hkey) (by decide)
    | item _ node items _ _ hfield hv =>
        exact hcollection (h.shells_isScalar (hshells ▸ hfield) v hv)
    | argument =>
        unfold argumentsKey at hshells
        split at hshells <;> exact absurd hshells (by decide)
  · -- The pairs stand for the tags or for the shells.
    simp only [listKeys, List.mem_cons, List.not_mem_nil, or_false] at hkey
    rcases hkey with rfl | rfl
    · exact .inr ⟨node, entries, hne, hfield⟩
    · exact absurd (h.shells_not_pairs hfield) hne

/-- Without a misplaced collection all that a workflow takes is scalars. -/
theorem Writes.isScalar {data : Entries} {w : Workflow} (h : Writes Value.IsFlat True data w)
    (hno : ¬ Misplaces data) : Writes Value.IsScalar False data w := by
  refine h.mono (fun key v hv _ => ?_) fun key hkey node entries hfield hne _ => ?_
  · by_contra hcollection
    exact hno (.inl ⟨key, v, hv, hcollection⟩)
  · exact hno (.inr ⟨key, hkey, node, entries, hne, hfield⟩)

end Workflow

namespace Theme

open Schema
open Yaml (Value)

/-- A collection stands where a theme takes a text. -/
def Misplaces (data : Entries) : Prop := ∃ v, Takes data v ∧ ¬ v.IsScalar

/-- The collections that are let in as texts are the sets. -/
def LetsIn (data : Entries) : Prop := ∃ v, Takes data v ∧ v.shape? = some .set

theorem Writes.misplaces_iff {data : Entries} {t : Theme} (h : Writes Value.IsFlat data t) :
    Misplaces data ↔ LetsIn data := by
  refine exists_congr fun v => and_congr_right fun hv => ⟨fun hcollection => ?_, fun hset hno => ?_⟩
  · exact ((Value.isFlat_iff v).mp (h.holds hv)).resolve_left hcollection
  · exact hno.not_set hset

theorem Writes.isScalar {data : Entries} {t : Theme} (h : Writes Value.IsFlat data t)
    (hno : ¬ Misplaces data) : Writes Value.IsScalar data t :=
  h.mono fun v hv _ => by_contra fun hcollection => hno ⟨v, hv, hcollection⟩

end Theme

namespace Schema

open Yaml (Value)

/-- What a reader of records lets in besides scalars. A misplaced value (`M`)
    that comes into a record is one of those that are let in (`L`), and any other
    one ends the reading. -/
theorem lets_in_only {α : Type} {text : String} {v : Value}
    (hv : Value.ofText text.toList = .ok v) (report : String → Event)
    {f : Entries → Except Fault α} {S M L : Entries → Prop} {Q R : Entries → α → Prop}
    (hread : ∀ data, Decides (S data) (f data) (Q data))
    (hlets : ∀ data a, Q data a → (M data ↔ L data))
    (hscalars : ∀ data a, Q data a → ¬ M data → R data a) :
    (∀ a, accepted report (valueOf text >>= fun v => entriesOf v >>= f) = .ok ⟨some a, []⟩ →
        (IsMappingOf v M ↔ IsMappingOf v L) ∧
          (¬ IsMappingOf v L → IsMappingOf v (R · a))) ∧
      (IsMappingOf v M → ¬ IsMappingOf v L → (∀ node data, v = .mapping node data → S data) →
        ∃ reason, accepted report (valueOf text >>= fun v => entriesOf v >>= f) =
          .ok ⟨none, [report reason]⟩) := by
  rcases (decides_ofText hv hread).settles report with ⟨haccepted, hrefused, _⟩
  have hmisplaced : ∀ a, IsMappingOf v (Q · a) → (IsMappingOf v M ↔ IsMappingOf v L) := by
    rintro a ⟨node, data, rfl, ha⟩
    rw [isMappingOf_mapping, isMappingOf_mapping]
    exact hlets data a ha
  refine ⟨fun a ha => ?_, fun hM hL hS => hrefused hS fun a ha => hL ((hmisplaced a ha).mp hM)⟩
  have ha := ((haccepted a).mp ha).1
  refine ⟨hmisplaced a ha, fun hL => ?_⟩
  have hM := mt (hmisplaced a ha).mp hL
  rcases ha with ⟨node, data, rfl, ha⟩
  exact ⟨node, data, rfl, hscalars data a ha (mt (isMappingOf_mapping node data M).mpr hM)⟩

/-- Whatever a text says, a record that comes of it has only texts of scalars,
    unless a set stands in the place of a text or some pairs stand for the tags.
    All other collections in the place of a text are refused. -/
theorem collections_refused_iff (text : String) (v : Value)
    (hv : Value.ofText text.toList = .ok v) :
    ((∀ w, Workflow.read text = .ok ⟨some w, []⟩ →
        (IsMappingOf v Workflow.Misplaces ↔ IsMappingOf v Workflow.LetsIn) ∧
          (¬ IsMappingOf v Workflow.LetsIn → Workflow.IsWrittenBy Value.IsScalar False v w)) ∧
      (IsMappingOf v Workflow.Misplaces → ¬ IsMappingOf v Workflow.LetsIn →
        (∀ node data, v = .mapping node data → Workflow.Shown data) →
          ∃ reason, Workflow.read text = .ok ⟨none, [.workflowRejected reason]⟩)) ∧
    ((∀ t, Theme.read text = .ok ⟨some t, []⟩ →
        (IsMappingOf v Theme.Misplaces ↔ IsMappingOf v Theme.LetsIn) ∧
          (¬ IsMappingOf v Theme.LetsIn → Theme.IsWrittenBy Value.IsScalar v t)) ∧
      (IsMappingOf v Theme.Misplaces → ¬ IsMappingOf v Theme.LetsIn →
        (∀ node data, v = .mapping node data → Theme.Shown data) →
          ∃ reason, Theme.read text = .ok ⟨none, [.themeRejected reason]⟩)) := by
  exact ⟨lets_in_only hv _ Workflow.decides_ofEntries
      (fun _ _ h => h.misplaces_iff) fun _ _ h => h.isScalar,
    lets_in_only hv _ Theme.decides_ofEntries
      (fun _ _ h => h.misplaces_iff) fun _ _ h => h.isScalar⟩

/-- The entries of a document that has a list in the place of its name. -/
def listedName (node : Nat) : Entries :=
  [(.text "name", .sequence node [.text "a"]), (.text "command", .text "b")]

/-- Whether a value is such a document. -/
def isListedName : Value → Bool
  | .mapping _ [(.text "name", .sequence _ [.text "a"]), (.text "command", .text "b")] => true
  | _ => false

theorem eq_of_isListedName {v : Value} (h : isListedName v = true) :
    ∃ node inner, v = .mapping node (listedName inner) := by
  unfold isListedName at h
  split at h
  · exact ⟨_, _, rfl⟩
  · exact absurd h Bool.false_ne_true

theorem listedName_isPlain (node : Nat) : ∀ e ∈ listedName node, e.2.IsPlain :=
  (Value.IsPlain.of_isPlain (.mapping 0 (listedName node)) rfl).of_mem_mapping

theorem misplaces_listedName (node : Nat) : Workflow.Misplaces (listedName node) :=
  .inl ⟨"name", .sequence node [.text "a"], .field _ _ (by decide) rfl,
    fun h => absurd h (Option.some_ne_none _)⟩

theorem field?_listedName {node : Nat} {key : String} {v : Value}
    (h : field? (listedName node) key = some v) :
    v = .sequence node [.text "a"] ∨ v = .text "b" := by
  rcases exists_of_field? h with ⟨e, he, rfl⟩
  rcases List.mem_cons.mp he with rfl | he
  · exact .inl rfl
  · cases List.mem_singleton.mp he
    exact .inr rfl

theorem shown_listedName (node : Nat) : Workflow.Shown (listedName node) := by
  refine (Workflow.shown_iff_isShort _ (listedName_isPlain node)).mpr fun key n hn => ?_
  -- No number is in it, neither in a field nor in the list.
  cases hn with
  | field _ _ _ h =>
      rcases field?_listedName h with heq | heq
      · exact absurd heq Value.noConfusion
      · exact absurd heq Value.noConfusion
  | item _ _ items _ _ h hv =>
      rcases field?_listedName h with heq | heq
      · cases heq
        exact absurd (List.mem_singleton.mp hv) Value.noConfusion
      · exact absurd heq Value.noConfusion
  | argument _ _ items _ _ _ h hentry _ _ =>
      rcases field?_listedName h with heq | heq
      · cases heq
        exact absurd (List.mem_singleton.mp hentry) Value.noConfusion
      · exact absurd heq Value.noConfusion

/-- A document without sets and pairs that has a list for its tags, and one that
    has a list for its name. -/
theorem collections_refused_iff_listed :
    (∃ v, Value.ofText "name: a\ncommand: b\ntags: [c]".toList = .ok v ∧
      Workflow.IsWrittenBy Value.IsScalar False v
        { name := "a", command := "b", tags := ["c"] }) ∧
    ∃ v, Value.ofText "name: [a]\ncommand: b".toList = .ok v ∧
      IsMappingOf v Workflow.Misplaces ∧
      ∃ reason, Workflow.read "name: [a]\ncommand: b" =
        .ok ⟨none, [.workflowRejected reason]⟩ := by
  constructor
  · rcases exists_value "name: a\ncommand: b\ntags: [c]" Value.isPlain Workflow.ofValue
      { name := "a", command := "b", tags := ["c"] }
      (by decide +kernel) with ⟨v, hv, hplain, hread⟩
    have hnone : ¬ IsMappingOf v Workflow.LetsIn := by
      rintro ⟨node, data, rfl, hlets⟩
      exact Workflow.not_letsIn (Value.IsPlain.of_isPlain _ hplain).of_mem_mapping hlets
    have haccepted := congrArg (accepted Event.workflowRejected) hread
    exact ⟨v, hv, ((collections_refused_iff _ v hv).1.1 _ haccepted).2 hnone⟩
  · rcases exists_value "name: [a]\ncommand: b" isListedName (fun _ => .ok ()) ()
      (by decide +kernel) with ⟨v, hv, hlisted, _⟩
    obtain ⟨node, inner, rfl⟩ := eq_of_isListedName hlisted
    have hmapping := (isMappingOf_mapping node _ _).mpr (misplaces_listedName inner)
    have hnone : ¬ IsMappingOf (.mapping node (listedName inner)) Workflow.LetsIn :=
      mt (isMappingOf_mapping node _ _).mp (Workflow.not_letsIn (listedName_isPlain inner))
    refine ⟨_, hv, hmapping, (collections_refused_iff _ _ hv).1.2 hmapping hnone ?_⟩
    rintro _ _ heq
    cases heq
    exact shown_listedName inner

/-- A set in the place of a name is no list and no mapping, so that it is shown
    like a scalar. -/
theorem reads_set :
    ∃ v, Value.ofText "name: !!set \x7ba\x7d\ncommand: y".toList = .ok v ∧
      IsMappingOf v Workflow.Misplaces ∧
      Workflow.read "name: !!set \x7ba\x7d\ncommand: y" =
        .ok ⟨some { name := "\x7b'a'\x7d", command := "y" }, []⟩ := by
  rcases exists_value "name: !!set \x7ba\x7d\ncommand: y"
    (fun v => (entriesOf v).toOption.any fun data =>
      (field? data "name").any (·.shape? == some .set))
    Workflow.ofValue { name := "\x7b'a'\x7d", command := "y" }
    (by decide +kernel) with ⟨v, hv, hset, hread⟩
  refine ⟨v, hv, ?_, congrArg (accepted Event.workflowRejected) hread⟩
  cases v with
  | mapping node data =>
      have hname : (field? data "name").any (·.shape? == some .set) = true := hset
      rcases (Option.any_eq_true _ _).mp hname with ⟨x, hx, hshape⟩
      have htaken : Workflow.Takes data "name" x :=
        .field "name" x (by simp [Workflow.textKeys]) hx
      exact ⟨node, data, rfl, .inl ⟨"name", x, htaken, fun hscalar =>
        hscalar.not_set (beq_iff_eq.mp hshape)⟩⟩
  | _ => exact absurd hset Bool.false_ne_true

end Schema

end SimTerm
