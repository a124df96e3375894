import SimTerm.Proofs.Yaml.Composition
import SimTerm.Proofs.Yaml.Leads
import SimTerm.Proofs.Yaml.Showing

/-!
# How the Assembly Ends

What a document must be like so that nothing breaks its reading off.

The assembly breaks off in two ways. One is a failed conversion, and the only
steps that end with it are those for scalars with the tags of truth values,
numbers and times. Whether they do is decided by the tag and the text, so it can
be seen from the nodes as they were composed (`Node.Converts`). The other is that
keys lead on too far, which can be seen from these nodes as well (`Winds`).

Until a node is met, though, nodes are changed: mappings take in the entries of
others, and keys that are a lone equals sign become texts. `Follows` says that
this is all that happens to a node. In particular a scalar keeps its text, and it
does not get a tag under which it would have to be converted. The entries of a
mapping come from it or from what it takes in (`Inherits`).

That every node follows the one it was and inherits its entries is the invariant
of the assembly (`Assembled`), together with what is known of the values in
cells. Each step keeps it and ends early only in the ways that there are
(`Ends`). What the document stands for is then built from such cells.

## Main definitions

* `Converts`: A text becomes the value that a tag asks for.
* `Node.Converts`: The same for the text of a node.
* `Follows`: A node is what it was, but for entries and the tag of a text.
* `Assembled`: The invariant of the assembly.
* `Ends`: In which ways the assembly ends early.
* `Converting`: No conversion in a text fails.
* `TooDeep`: Something in a text is nested too deep.

## Theorems

* `tame_meet`, `tame_mergeInto`, `tame_fillAll`: Steps of the assembly keep the
  invariant.
* `Graph.value_cases`: What a document stands for, or why it stands for nothing.
* `Value.ofText_cases`: The same for a text.
-/

namespace SimTerm

namespace Yaml

/-- A text becomes the value that a tag asks for, and a whole number is not too
    long to be shown. -/
structure Converts (tag text : String) : Prop where
  bool : tag = standardTag "bool" → ∃ b, truthValue text = .ok b
  int : tag = standardTag "int" →
    ∃ n, wholeNumber text = .ok n ∧ (Text.writeInteger? n).isSome = true
  float : tag = standardTag "float" → ∀ node, ∃ v, numberValue node text = .ok v
  timestamp : tag = standardTag "timestamp" → ∃ v, timeValue text = .ok v

/-- The tags under which a text has to be converted. -/
def convertedTags : List String := ["bool", "int", "float", "timestamp"].map standardTag

/-- The text of a node becomes what its tag asks for. A mapping has no text of
    its own, and then the tag should not ask for anything. -/
def Node.Converts (n : Node) : Prop :=
  match n.content with
  | .scalar text => Yaml.Converts n.tag text
  | .sequence _ => True
  | .mapping _ => n.tag ∉ convertedTags

/-- The texts of all nodes become what their tags ask for. -/
def AllConvert (nodes : Array Node) : Prop := ∀ n ∈ nodes, n.Converts

/-- A node is what it was, but for the entries of a mapping and the tag of a text. -/
structure Follows (n₀ n : Node) : Prop where
  /-- The tag is the same, or it was that of a lone equals sign and is that of a text. -/
  tag : n.tag = n₀.tag ∨ n₀.tag = standardTag "value" ∧ n.tag = standardTag "str"
  /-- What the node holds is the same, or both hold entries. -/
  content : n.content = n₀.content ∨
    ∃ entries₀ entries, n₀.content = .mapping entries₀ ∧ n.content = .mapping entries

/-- The nodes follow those of a document and inherit their entries. If all texts
    convert, the values in cells can be shown. -/
structure Assembled (nodes₀ : Array Node) (s : Assembly) : Prop where
  /-- The nodes. -/
  nodes : ∀ id, Follows (nodes₀.getD id default) (s.nodes.getD id default)
  /-- The entries of the nodes. -/
  entries : ∀ id, ∀ e ∈ (s.nodes.getD id default).content.entries, Inherits nodes₀ id e
  /-- The cells. -/
  cells : AllConvert nodes₀ → ∀ id c, s.cells.getD id none = some c → c.Showable

/-- In which ways the assembly of some nodes ends early: with a problem, with a
    failed conversion, or since keys lead on too far. -/
def Ends (nodes₀ : Array Node) : Fault → Prop
  | .malformed _ => True
  | .unprintable _ _ => False
  | .halted (.conversion _) => ¬ AllConvert nodes₀
  | .halted .tooDeep => Winds nodes₀

/-- A step keeps the invariant of the assembly, and it ends early only in these ways. -/
abbrev Tame {α : Type} (nodes₀ : Array Node) (m : Assemble α) (Q : α → Prop) : Prop :=
  Keeps (Assembled nodes₀) (Ends nodes₀) m Q

/-- No conversion in a text fails. -/
structure Converting (text : List Char) : Prop where
  /-- The tokens do not end with a failed conversion. -/
  tokens : ∀ c, (TokenStream.ofText text).fault ≠ some (.halted (.conversion c))
  /-- The texts of all nodes become what the tags ask for. -/
  nodes : ∀ g, Graph.ofText text = .ok (some g) → AllConvert g.nodes

/-- Something in a text is nested too deep. -/
inductive TooDeep (text : List Char) : Prop where
  /-- More collections are open at once than may be while its nodes are composed. -/
  | nodes (h : Graph.ofText text = .error (.halted .tooDeep))
  /-- The keys of its nodes lead on too far. -/
  | keys (g : Graph) (h : Graph.ofText text = .ok (some g)) (hwinds : Winds g.nodes)
  /-- Its value has more levels than are shown. -/
  | levels (v : Value) (h : Value.ofText text = .ok v) (hv : Json.maxLevels < v.levels)

/-! ### Nodes that follow others -/

theorem Follows.refl (n : Node) : Follows n n := ⟨.inl rfl, .inl rfl⟩

theorem Follows.isMapping {n₀ n : Node} (h : Follows n₀ n) (entries : List (Nat × Nat))
    (hn : n.content = .mapping entries) : ∃ entries₀, n₀.content = .mapping entries₀ := by
  rcases h.content with hsame | ⟨entries₀, _, h₀, _⟩
  · exact ⟨entries, hsame.symm.trans hn⟩
  · exact ⟨entries₀, h₀⟩

/-- A scalar keeps its text. -/
theorem Follows.isScalar {n₀ n : Node} (h : Follows n₀ n) (text : String)
    (hn : n.content = .scalar text) : n₀.content = .scalar text := by
  rcases h.content with hsame | ⟨_, entries, _, hmapping⟩
  · exact hsame.symm.trans hn
  · rw [hn] at hmapping
    exact absurd hmapping (by simp only [reduceCtorEq, not_false_eq_true])

/-- A tag under which a text is converted is the one that was there. -/
theorem Follows.tag_eq {n₀ n : Node} (h : Follows n₀ n) (hn : n.tag ∈ convertedTags) :
    n.tag = n₀.tag := by
  rcases h.tag with hsame | ⟨_, hstr⟩
  · exact hsame
  · rw [hstr] at hn
    exact absurd hn (by decide)

/-- A tag that is not that of a text is the one that was there. -/
theorem Follows.tag_of_ne {n₀ n : Node} (h : Follows n₀ n) (hn : n.tag ≠ standardTag "str") :
    n₀.tag = n.tag :=
  (h.tag.resolve_right fun hstr => hn hstr.2).symm

theorem Follows.items {n₀ n : Node} (h : Follows n₀ n) (items : List Nat)
    (hn : n.content = .sequence items) : n₀.content.items = items := by
  rcases h.content with hsame | ⟨_, entries, _, hmapping⟩
  · rw [← hsame, hn, Content.items]
  · rw [hn] at hmapping
    exact absurd hmapping (by simp only [reduceCtorEq, not_false_eq_true])

/-- The text of a node that is met under such a tag is its own and converts. -/
theorem Follows.converts {n₀ n : Node} (h : Follows n₀ n) (hn₀ : n₀.Converts) (text : String)
    (htext : n₀.content = .scalar text ∨ ∃ entries, n₀.content = .mapping entries)
    (hn : n.tag ∈ convertedTags) : n.content = .scalar text ∧ Yaml.Converts n.tag text := by
  rcases htext with hscalar | ⟨entries, hmapping⟩
  · refine ⟨?_, ?_⟩
    · rcases h.content with hsame | ⟨entries₀, _, h₀, _⟩
      · exact hsame.trans hscalar
      · rw [hscalar] at h₀
        exact absurd h₀ (by simp only [reduceCtorEq, not_false_eq_true])
    · rw [Node.Converts, hscalar] at hn₀
      rw [h.tag_eq hn]
      exact hn₀
  · -- The tag of a mapping asks for no conversion.
    rw [Node.Converts, hmapping] at hn₀
    rw [h.tag_eq hn] at hn
    exact absurd hn hn₀

theorem getD_modify {α : Type} (xs : Array α) (i j : Nat) (f : α → α) (d : α) :
    (xs.modify i f).getD j d = xs.getD j d ∨
      i = j ∧ (xs.modify i f).getD j d = f (xs.getD j d) := by
  simp only [Array.getD_eq_getD_getElem?, Array.getElem?_modify]
  by_cases hij : i = j
  · rw [if_pos hij]
    cases xs[j]? with
    | none => exact .inl rfl
    | some x => exact .inr ⟨hij, rfl⟩
  · exact .inl (by rw [if_neg hij])

/-! ### Small steps -/

variable {nodes₀ : Array Node}

theorem tame_reject {α : Type} (p : Problem) (Q : α → Prop) :
    Tame nodes₀ (Assemble.reject p) Q := fun _ _ => trivial

theorem tame_tooFar {α : Type} (Q : α → Prop) (h : Winds nodes₀) :
    Tame nodes₀ (Assemble.tooFar : Assemble α) Q := fun _ _ => h

theorem tame_node (id : Nat) :
    Tame nodes₀ (Assemble.node id) (fun n => Follows (nodes₀.getD id default) n ∧
      ∀ e ∈ n.content.entries, Inherits nodes₀ id e) :=
  fun _ hs => ⟨hs, hs.nodes id, hs.entries id⟩

theorem tame_entries (id : Nat) :
    Tame nodes₀ (Assemble.entries id) (fun all => ∀ e ∈ all, Inherits nodes₀ id e) :=
  .bind (tame_node id) fun _ hn => .pure hn.2

/-- A change of a node keeps the invariant if the node still follows the one it was
    and inherits its entries. -/
theorem tame_modify (id : Nat) (f : Node → Node)
    (hf : ∀ n, Follows (nodes₀.getD id default) n → Follows (nodes₀.getD id default) (f n))
    (hentries : ∀ n, ∀ e ∈ (f n).content.entries, e ∈ n.content.entries ∨ Inherits nodes₀ id e) :
    Tame nodes₀ (modify fun s => { s with nodes := s.nodes.modify id f }) (fun _ => True) := by
  refine .modify fun s hs => ⟨fun other => ?_, fun other e he => ?_, hs.cells⟩
  · dsimp only
    rcases getD_modify s.nodes id other f default with h | ⟨heq, h⟩
    · rw [h]
      exact hs.nodes other
    · rw [h, ← heq]
      exact hf _ (hs.nodes id)
  · dsimp only at he
    rcases getD_modify s.nodes id other f default with h | ⟨rfl, h⟩
    · rw [h] at he
      exact hs.entries other e he
    · rw [h] at he
      exact (hentries _ e he).elim (hs.entries id e) fun hinherits => hinherits

/-- Only a mapping is given other entries. -/
theorem tame_setEntries (id : Nat) (entries : List (Nat × Nat))
    (hid : ∃ entries₀, (nodes₀.getD id default).content = .mapping entries₀)
    (hentries : ∀ e ∈ entries, Inherits nodes₀ id e) :
    Tame nodes₀ (Assemble.setEntries id entries) (fun _ => True) := by
  rcases hid with ⟨entries₀, h₀⟩
  exact tame_modify id _ (fun n hn => ⟨hn.tag, .inr ⟨entries₀, entries, h₀, rfl⟩⟩)
    fun n e he => .inr (hentries e he)

/-- Only the tag of a lone equals sign is set to that of a text. -/
theorem tame_setTag (id : Nat) (hid : tagAt nodes₀ id = standardTag "value") :
    Tame nodes₀ (Assemble.setTag id (standardTag "str")) (fun _ => True) :=
  tame_modify id _ (fun _ hn => ⟨.inr ⟨hid, rfl⟩, hn.content⟩) fun _ _ he => .inl he

theorem tame_setCell (id : Nat) (cell : Cell) (hcell : AllConvert nodes₀ → cell.Showable) :
    Tame nodes₀ (Assemble.setCell id cell) (fun _ => True) := by
  refine .modify fun s hs => ⟨hs.nodes, hs.entries, fun hall other c hc => ?_⟩
  rcases getD_setIfInBounds s.cells id other (some cell) none with h | h
  · rw [h] at hc
    exact Option.some.inj hc ▸ hcell hall
  · rw [h] at hc
    exact hs.cells hall other c hc

theorem showable_of_not_leaf (c : Cell) (h : ∀ v, c ≠ .leaf v) : c.Showable :=
  fun v hv => absurd hv (h v)

/-! ### Scalars -/

/-- The text that is found for a node is its own, or else the node is a mapping.
    Value keys may lead on too far from it. -/
theorem tame_scalarText (steps id : Nat) (h : Leads (Refers nodes₀) steps id → Winds nodes₀) :
    Tame nodes₀ (scalarText steps id) (fun text =>
      (nodes₀.getD id default).content = .scalar text ∨
        ∃ entries, (nodes₀.getD id default).content = .mapping entries) := by
  induction steps generalizing id with
  | zero => exact tame_tooFar _ (h (.here id))
  | succ steps ih =>
      rw [scalarText]
      refine .bind (tame_node id) fun n ⟨hn, hentries⟩ => ?_
      split
      case h_1 text hcontent => exact .pure (.inl (hn.isScalar text hcontent))
      case h_2 => exact tame_reject _ _
      case h_3 entries hcontent =>
        refine .bind .get fun s hs => ?_
        dsimp only
        split
        case h_1 key value hfind =>
          have hkey : (s.nodes.getD key default).tag = standardTag "value" := by
            simpa using List.find?_some hfind
          have hmem : (key, value) ∈ n.content.entries := by
            rw [hcontent]
            exact List.mem_of_find?_eq_some hfind
          -- The key had that tag all along.
          have hrefers : Refers nodes₀ id value :=
            ⟨key, hentries _ hmem, ((hs.nodes key).tag_of_ne (by rw [hkey]; decide)).trans hkey⟩
          exact (ih value fun hvalue => h (.step steps id value hrefers hvalue)).mono
            fun _ _ => .inr (hn.isMapping entries hcontent)
        case h_2 => exact tame_reject _ _

theorem showable_of_numberValue (node : Nat) (text : String) (v : Value)
    (h : numberValue node text = .ok v) : v.Showable := by
  unfold numberValue at h
  simp only [bind, Except.bind, pure, Except.pure] at h
  repeat' split at h
  all_goals first
    | exact absurd h (by simp only [reduceCtorEq, not_false_eq_true])
    | (rw [← Except.ok.inj h]; constructor)

theorem showable_of_timeOfParts? (p : TimeParts) (v : Value) (h : timeOfParts? p = some v) :
    v.Showable := by
  unfold timeOfParts? at h
  dsimp only at h
  repeat' split at h
  all_goals first
    | exact absurd h (by simp only [reduceCtorEq, not_false_eq_true])
    | (rw [← Option.some.inj h]; constructor)
    | (rcases Option.map_eq_some_iff.mp h with ⟨_, _, hv⟩; rw [← hv]; constructor)

theorem showable_of_timeValue (text : String) (v : Value) (h : timeValue text = .ok v) :
    v.Showable := by
  unfold timeValue at h
  split at h
  · exact absurd h (by simp only [reduceCtorEq, not_false_eq_true])
  · case h_2 p _ =>
      unfold convert at h
      split at h
      case h_1 w hw => exact Except.ok.inj h ▸ showable_of_timeOfParts? p w hw
      case h_2 => exact absurd h (by simp only [reduceCtorEq, not_false_eq_true])

/-- A conversion that goes through is a step without a fault. -/
theorem tame_ofConversion {α : Type} (r : Except Conversion α) (Q : α → Prop)
    (h : ∃ a, r = .ok a ∧ Q a) : Tame nodes₀ (Assemble.ofConversion r) Q := by
  rcases h with ⟨a, hr, ha⟩
  rw [hr]
  exact .pure ha

theorem tame_convertScalar_of_converts (id : Nat) (n n₀ : Node) (text : String)
    (hn : Follows n₀ n) (hn₀ : n₀.Converts)
    (htext : n₀.content = .scalar text ∨ ∃ entries, n₀.content = .mapping entries) :
    Tame nodes₀ (convertScalar id n text) Value.Showable := by
  have hconverts := fun h => hn.converts hn₀ text htext h
  unfold convertScalar
  refine .ite (fun _ => .pure .null) fun _ => ?_
  refine .ite (fun htag => ?_) fun _ => .ite (fun htag => ?_) fun _ => .ite (fun htag => ?_)
    fun _ => .ite (fun _ => ?_) fun _ => .ite (fun htag => ?_) fun _ => .pure (.text text)
  -- Under each of the tags that ask for it the text is known to convert.
  all_goals rw [beq_iff_eq] at *
  · rcases (hconverts (by rw [htag]; decide)).2.bool htag with ⟨b, hb⟩
    exact .bind (tame_ofConversion _ (fun _ => True) ⟨b, hb, trivial⟩) fun b _ => .pure (.bool b)
  · rcases (hconverts (by rw [htag]; decide)).2.int htag with ⟨k, hk, hlong⟩
    exact .bind (tame_ofConversion _ (fun k => (Text.writeInteger? k).isSome = true)
      ⟨k, hk, hlong⟩) fun k hk => .pure (.int k hk)
  · rcases (hconverts (by rw [htag]; decide)).2.float htag id with ⟨v, hv⟩
    exact tame_ofConversion _ _ ⟨v, hv, showable_of_numberValue id text v hv⟩
  · -- Bytes that are no bytes are a problem and no failed conversion.
    split
    · exact .pure (.binary _)
    · exact tame_reject _ _
  · rcases hconverts (by rw [htag]; decide) with ⟨hscalar, hall⟩
    rcases hall.timestamp htag with ⟨v, hv⟩
    rw [hscalar]
    exact tame_ofConversion _ _ ⟨v, hv, showable_of_timeValue text v hv⟩

/-- Where some text does not convert, any conversion may fail. -/
theorem tame_convertScalar_of_not_all (id : Nat) (n : Node) (text : String)
    (hall : ¬ AllConvert nodes₀) : Tame nodes₀ (convertScalar id n text) (fun _ => True) := by
  have hfails : ∀ {α : Type} (r : Except Conversion α),
      Tame nodes₀ (Assemble.ofConversion r) (fun _ => True) := by
    intro α r
    cases r with
    | ok a => exact .pure trivial
    | error c => exact fun _ _ => hall
  unfold convertScalar
  refine .ite (fun _ => .pure trivial) fun _ => .ite (fun _ => ?_) fun _ => .ite (fun _ => ?_)
    fun _ => .ite (fun _ => hfails _) fun _ => .ite (fun _ => ?_) fun _ => .ite (fun _ => ?_)
    fun _ => .pure trivial
  · exact .bind (hfails _) fun _ _ => .pure trivial
  · exact .bind (hfails _) fun _ _ => .pure trivial
  · split
    · exact .pure trivial
    · exact tame_reject _ _
  · split
    · exact hfails _
    · exact fun _ _ => hall

/-- All nodes have texts that convert, and where there is no node nothing is asked for. -/
theorem AllConvert.getD (hall : AllConvert nodes₀) (id : Nat) :
    (nodes₀.getD id default).Converts := by
  rw [Array.getD_eq_getD_getElem?]
  cases hn : nodes₀[id]? with
  | some n => exact hall n (Array.mem_of_getElem? hn)
  | none => exact ⟨fun ht => absurd ht (by decide), fun ht => absurd ht (by decide),
      fun ht => absurd ht (by decide), fun ht => absurd ht (by decide)⟩

theorem tame_convertScalar (id : Nat) (n : Node) (text : String)
    (hn : Follows (nodes₀.getD id default) n)
    (htext : (nodes₀.getD id default).content = .scalar text ∨
      ∃ entries, (nodes₀.getD id default).content = .mapping entries) :
    Tame nodes₀ (convertScalar id n text) (fun v => AllConvert nodes₀ → v.Showable) := by
  by_cases hall : AllConvert nodes₀
  · exact (tame_convertScalar_of_converts id n _ text hn (hall.getD id) htext).mono
      fun _ hv _ => hv
  · exact (tame_convertScalar_of_not_all id n text hall).mono fun _ _ h => absurd h hall

/-! ### Collections -/

theorem tame_meet (id : Nat) : Tame nodes₀ (meet id) (fun _ => True) := by
  unfold meet
  refine .bind .get fun s _ => .ite (fun _ => ?_) fun _ => .pure trivial
  refine .bind (tame_node id) fun n ⟨hn, _⟩ => ?_
  -- A collection is opened, and a scalar is converted.
  split
  case h_1 kind _ =>
    refine .bind (tame_setCell id (.opened kind) fun _ => showable_of_not_leaf _ fun _ => ?_)
      fun _ _ => ?_
    · exact Cell.noConfusion
    · exact .modify fun s hs => ⟨hs.nodes, hs.entries, hs.cells⟩
  case h_2 =>
    refine .ite (fun htag => ?_) fun _ => tame_reject _ _
    have htag := List.contains_iff_mem.mp htag
    -- The tag asked for a text from the start, or it was that of a lone equals sign.
    have htag₀ : tagAt nodes₀ id ∈ standardTag "value" :: scalarTags := by
      rcases hn.tag with hsame | ⟨hvalue, _⟩
      · rw [hsame] at htag
        exact List.mem_cons_of_mem _ htag
      · exact hvalue ▸ List.mem_cons_self
    refine .bind (tame_scalarText _ id (.values id htag₀)) fun text htext => ?_
    refine .bind (tame_convertScalar id n text hn htext) fun v hv => ?_
    exact tame_setCell id _ fun hall w hw => Cell.leaf.inj hw ▸ hv hall

theorem tame_finishMerge (id : Nat) (merged : List (Nat × Nat))
    (hid : ∃ entries, (nodes₀.getD id default).content = .mapping entries)
    (hmerged : ∀ e ∈ merged, Inherits nodes₀ id e) :
    Tame nodes₀ (finishMerge id merged) (fun _ => True) := by
  refine .bind (tame_entries id) fun all hall => ?_
  refine .bind (.forIn (S := fun _ => True) trivial fun e _ _ _ => ?_) fun _ _ => ?_
  · refine .bind (tame_node e.1) fun n ⟨hn, _⟩ => .ite (fun htag => ?_) fun _ => .pure trivial
    -- A lone equals sign has its tag from the start.
    have htag := beq_iff_eq.mp htag
    have htag₀ := (hn.tag_of_ne (by rw [htag]; decide)).trans htag
    exact .bind (tame_setTag e.1 htag₀) fun _ _ => .pure trivial
  · refine .ite (fun _ => ?_) fun _ => .pure trivial
    exact tame_setEntries id _ hid fun e he => (List.mem_append.mp he).elim (hmerged e) (hall e)

section

variable {take : Nat → Assemble Unit} {id : Nat}
    (htake : ∀ b, (∃ entries, (nodes₀.getD b default).content = .mapping entries) →
      Relation.TransGen (Merges nodes₀) id b → Tame nodes₀ (take b) (fun _ => True))

include htake

/-- What is under a merge key of a mapping is inherited by it. -/
theorem tame_mergedEntries (key source : Nat) (hkey : Inherits nodes₀ id (key, source))
    (htag : tagAt nodes₀ key = standardTag "merge") :
    Tame nodes₀ (mergedEntries take id source) (fun more => ∀ e ∈ more, Inherits nodes₀ id e) := by
  refine .bind (tame_node id) fun n _ => .bind (tame_node source) fun v ⟨hv, _⟩ => ?_
  -- The source is a mapping or a row of mappings.
  split
  case h_1 entries hcontent =>
    have hmerges := hkey.merges htag (.inl rfl)
    refine .bind (htake source (hv.isMapping entries hcontent) hmerges) fun _ _ => ?_
    exact (tame_entries source).mono fun more hmore e he => .of_transGen hmerges (hmore e he)
  case h_2 items hcontent =>
    have hrow : (nodes₀.getD source default).content.items = items := hv.items items hcontent
    refine .bind (.forIn (S := fun parts => ∀ e ∈ parts.flatten, Inherits nodes₀ id e)
      (fun _ he => absurd he List.not_mem_nil) fun item hitem parts hparts => ?_)
      fun parts hparts => .pure hparts
    refine .bind (tame_node item) fun i ⟨hi, _⟩ => ?_
    split
    case h_1 entries hcontent =>
      have hmerges := hkey.merges htag (.inr (hrow ▸ hitem))
      refine .bind (htake item (hi.isMapping entries hcontent) hmerges) fun _ _ => ?_
      refine .bind (tame_entries item) fun more hmore => .pure fun e he => ?_
      rw [ForInStep.value, List.flatten_cons, List.mem_append] at he
      exact he.elim (fun he => .of_transGen hmerges (hmore e he)) (hparts e)
    case h_2 => exact .bind (tame_reject _ (fun _ => True)) fun _ _ => .pure hparts
  case h_3 => exact tame_reject _ _

theorem tame_mergeRounds (hid : ∃ entries, (nodes₀.getD id default).content = .mapping entries)
    (rounds : Nat) (merged : List (Nat × Nat)) (hmerged : ∀ e ∈ merged, Inherits nodes₀ id e) :
    Tame nodes₀ (mergeRounds take id rounds merged) (fun _ => True) := by
  induction rounds generalizing merged with
  | zero => exact tame_finishMerge id merged hid hmerged
  | succ rounds ih =>
      rw [mergeRounds]
      refine .bind (tame_entries id) fun all hall => .bind .get fun s hs => ?_
      dsimp only
      split
      · exact tame_finishMerge id merged hid hmerged
      case h_2 key source rest hdrop =>
        -- The first entry that is left has a merge key, and the others stay.
        have hmem : ∀ e ∈ (key, source) :: rest, e ∈ all := fun e he =>
          (List.dropWhile_sublist _).mem (hdrop ▸ he)
        have hkey := List.head?_dropWhile_not
          (fun e => (s.nodes.getD e.1 default).tag != standardTag "merge") all
        rw [hdrop] at hkey
        have hkey : (s.nodes.getD key default).tag = standardTag "merge" := by simpa using hkey
        have htag := ((hs.nodes key).tag_of_ne (by rw [hkey]; decide)).trans hkey
        refine .bind (tame_setEntries id _ hid fun e he => ?_) fun _ _ => ?_
        · rcases List.mem_append.mp he with he | he
          · exact hall e ((List.takeWhile_sublist _).mem he)
          · exact hall e (hmem e (List.mem_cons_of_mem _ he))
        · have hinherits := hall _ (hmem _ List.mem_cons_self)
          refine .bind (tame_mergedEntries htake key source hinherits htag) fun more hmore => ?_
          exact ih _ fun e he => (List.mem_append.mp he).elim (hmerged e) (hmore e)

end

/-- Mappings are taken in for as long as merge keys lead on. -/
theorem tame_mergeInto (steps id : Nat)
    (hid : ∃ entries, (nodes₀.getD id default).content = .mapping entries)
    (h : Leads (Merges nodes₀) steps id → Winds nodes₀) :
    Tame nodes₀ (mergeInto steps id) (fun _ => True) := by
  induction steps generalizing id with
  | zero => exact tame_tooFar _ (h (.here id))
  | succ steps ih =>
      rw [mergeInto]
      refine .bind (tame_entries id) fun all _ => ?_
      refine tame_mergeRounds (fun b hb hmerges => ?_) hid _ _ fun _ he =>
        absurd he List.not_mem_nil
      exact ih b hb fun hleads => h (.of_transGen hmerges hleads)

theorem tame_meetItems (id : Nat) : Tame nodes₀ (meetItems id) (fun _ => True) := by
  refine .bind (tame_node id) fun n _ => ?_
  split
  · exact .bind (.forM fun item _ => tame_meet item) fun _ _ => .pure trivial
  · exact tame_reject _ _

theorem tame_meetEntries (id : Nat) : Tame nodes₀ (meetEntries id) (fun _ => True) := by
  refine .bind (tame_node id) fun n ⟨hn, _⟩ => ?_
  split
  case h_1 entries hcontent =>
    refine .bind (tame_mergeInto _ id (hn.isMapping entries hcontent) (.merges id)) fun _ _ => ?_
    refine .bind (tame_entries id) fun all _ => ?_
    refine .bind (.forIn (S := fun _ => True) trivial fun e _ _ _ => ?_) fun _ _ => .pure trivial
    have hvalue : Tame nodes₀ (do meet e.2; pure (ForInStep.yield PUnit.unit))
        (fun _ => True) := .bind (tame_meet e.2) fun _ _ => .pure trivial
    refine .bind (tame_meet e.1) fun _ _ => .bind .get fun s _ => ?_
    -- The key may turn out to be none.
    split
    · refine .ite (fun _ => ?_) fun _ => hvalue
      exact .bind (tame_node _) fun _ _ => .bind (tame_reject _ (fun _ => True)) fun _ _ => hvalue
    · exact hvalue
  case h_2 => exact tame_reject _ _

theorem tame_meetPairs (called : String) (id : Nat) :
    Tame nodes₀ (meetPairs called id) (fun _ => True) := by
  refine .bind (tame_node id) fun n _ => ?_
  dsimp only
  split
  · refine .bind (.forIn (S := fun _ => True) trivial fun item _ done _ => ?_)
      fun _ _ => .pure trivial
    refine .bind (tame_node item) fun i _ => ?_
    split
    · exact .bind (tame_meet _) fun _ _ => .bind (tame_meet _) fun _ _ =>
        .pure trivial
    · exact .bind (tame_reject _ (fun _ => True)) fun _ _ => .pure trivial
    · exact .bind (tame_reject _ (fun _ => True)) fun _ _ => .pure trivial
  · exact tame_reject _ _

theorem tame_fill (id : Nat) (kind : Collection) :
    Tame nodes₀ (fill id kind) (fun _ => True) := by
  -- What is filled holds no value of its own.
  cases kind with
  | sequence =>
      exact .bind (tame_meetItems id) fun _ _ =>
        tame_setCell id _ fun _ => showable_of_not_leaf _ fun _ => Cell.noConfusion
  | pairs called =>
      exact .bind (tame_meetPairs called id) fun _ _ =>
        tame_setCell id _ fun _ => showable_of_not_leaf _ fun _ => Cell.noConfusion
  | set =>
      exact .bind (tame_meetEntries id) fun _ _ =>
        tame_setCell id _ fun _ => showable_of_not_leaf _ fun _ => Cell.noConfusion
  | mapping =>
      exact .bind (tame_meetEntries id) fun _ _ =>
        tame_setCell id _ fun _ => showable_of_not_leaf _ fun _ => Cell.noConfusion

theorem tame_fillAll (fuel : Nat) : Tame nodes₀ (fillAll fuel) (fun _ => True) := by
  induction fuel with
  | zero => exact .pure trivial
  | succ fuel ih =>
      rw [fillAll]
      refine .bind .get fun s hs => .ite (fun _ => ?_) fun _ => .pure trivial
      -- Which collections wait to be filled does not bear on the invariant.
      refine .bind (.set ⟨hs.nodes, hs.entries, hs.cells⟩) fun _ _ => ?_
      refine .bind (.forIn (S := fun _ => True) trivial fun id _ _ _ => ?_) fun _ _ => ih
      refine .bind .get fun s _ => ?_
      split
      · exact .bind (tame_fill id _) fun _ _ => .pure trivial
      · exact .pure trivial

/-! ### Documents -/

/-- Before the assembly nothing has changed and nothing is in a cell. -/
theorem assembled_start (nodes : Array Node) :
    Assembled nodes ⟨nodes, Array.replicate nodes.size none, []⟩ := by
  refine ⟨fun _ => .refl _, fun id e he => ⟨id, .refl, he⟩, fun _ id c hc => ?_⟩
  rw [Array.getD_eq_getD_getElem?, Array.getElem?_replicate] at hc
  split at hc <;> exact absurd hc (by simp only [Option.getD_some, Option.getD_none,
    reduceCtorEq, not_false_eq_true])

/-- The value of a node is built from cells that can be shown. -/
theorem showable_rounds (cells : Array (Option Cell)) (finished rounds : List Nat)
    (hcells : ∀ id c, cells.getD id none = some c → c.Showable) :
    AllShowable (rounds.foldl (fun vs _ => valueRound cells finished vs)
      (cells.mapIdx fun id c => c.elim Value.null (Cell.outline id))) := by
  -- The rounds start with what is known of each cell alone.
  have hfirst : AllShowable (cells.mapIdx fun id c => c.elim Value.null (Cell.outline id)) := by
    intro id
    rw [Array.getD_eq_getD_getElem?, Array.getElem?_mapIdx]
    cases hc : cells[id]? with
    | none => exact .null
    | some c =>
        cases c with
        | none => exact .null
        | some cell =>
            refine (hcells id cell ?_).outline id
            rw [Array.getD_eq_getD_getElem?, hc, Option.getD_some]
  generalize cells.mapIdx (fun id c => c.elim Value.null (Cell.outline id)) = values at hfirst
  induction rounds generalizing values with
  | nil => exact hfirst
  | cons _ rest ih => exact ih _ (showable_valueRound cells finished values hcells hfirst)

/-- A document stands for a value, which can be shown if all its texts convert, or
    its assembly ends early. -/
theorem Graph.value_cases (g : Graph) :
    (∃ v, g.value = .ok v ∧ (AllConvert g.nodes → v.Showable)) ∨
      ∃ f, g.value = .error f ∧ Ends g.nodes f := by
  have hrun : Tame g.nodes (do meet g.root; fillAll (g.nodes.size + 1)) (fun _ => True) :=
    .bind (tame_meet _) fun _ _ => tame_fillAll _
  unfold Graph.value
  dsimp only
  rcases hrun.cases _ (assembled_start g.nodes) with ⟨u, s, hs, hassembled, _⟩ | ⟨f, hf, hends⟩
  · rw [hs]
    exact .inl ⟨_, rfl, fun hall => showable_rounds s.cells g.finished _ (hassembled.cells hall) _⟩
  · rw [hf]
    exact .inr ⟨f, rfl, hends⟩

/-- What can break the reading of a text off. -/
def Breaks (text : List Char) : Halt → Prop
  | .conversion _ => ¬ Converting text
  | .tooDeep => TooDeep text

/-- A text stands for a value, and whatever keeps that from being shown breaks the
    reading off, or the reading breaks off already, or the text is no document. -/
theorem Value.ofText_cases (text : List Char) :
    (∃ v, Value.ofText text = .ok v ∧ (Converting text → v.Showable)) ∨
      ∃ f, Value.ofText text = .error f ∧ ∀ h, f = .halted h → Breaks text h := by
  unfold Value.ofText
  rcases hg : Graph.ofText text with f | _ | g
  · refine .inr ⟨f, rfl, fun h hf => ?_⟩
    subst hf
    cases h with
    | tooDeep => exact .nodes hg
    | conversion c =>
        rcases Graph.fault_of_ofText text _ hg with ⟨p, hp⟩ | hdeep | hend
        · exact absurd hp (by simp only [reduceCtorEq, not_false_eq_true])
        · exact absurd hdeep (by simp only [Fault.halted.injEq, reduceCtorEq, not_false_eq_true])
        · exact fun hconv => hconv.tokens c hend
  · exact .inl ⟨.null, rfl, fun _ => .null⟩
  · rcases g.value_cases with ⟨v, hv, hshow⟩ | ⟨f, hf, hends⟩
    · exact .inl ⟨v, hv, fun hconv => hshow (hconv.nodes g hg)⟩
    · refine .inr ⟨f, hf, fun h hhalt => ?_⟩
      subst hhalt
      cases h with
      | tooDeep => exact .keys g hg hends
      | conversion c => exact fun hconv => hends (hconv.nodes g hg)

end Yaml

end SimTerm
