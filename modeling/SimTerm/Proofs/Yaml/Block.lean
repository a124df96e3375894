import SimTerm.Proofs.Yaml.Steps
import SimTerm.Yaml.Node.Composition

/-!
# Block Mappings

How the nodes of a mapping that is shown by indentation are composed.

The tokens of such a mapping are those of its entries in a row, and each entry is
a key, a colon and what the value is made of. Here the keys are plain scalars. So
a node is numbered when it is opened, an entry after the other, and the mapping
itself has the first number.

## Theorems

* `composeNode_scalar`, `composeNode_braces`: Plain scalars and empty mappings.
* `composeBlockMapping_entry`, `composeBlockMapping_end`: What a block is made of.
* `Graph.ofText_of_block`: A document that is such a mapping.
-/

namespace SimTerm

namespace Yaml

variable {s : Composer} {rest : List Token}

/-- A node that is closed right after it was opened has its content. -/
theorem closeNode_push (s : Composer) (n : Node) (content : Content) :
    closeNode s.nodes.size content { s with nodes := s.nodes.push n } =
      .ok (s.nodes.size, { s with
        nodes := s.nodes.push { n with content }, finished := s.nodes.size :: s.finished }) := by
  have hmodify : (s.nodes.push n).modify s.nodes.size (fun n => { n with content }) =
      s.nodes.push { n with content } := by
    grind
  change Except.ok (s.nodes.size, ({ s with
    nodes := (s.nodes.push n).modify s.nodes.size _, finished := _ } : Composer)) = _
  rw [hmodify]

theorem composeNode_scalar {text : String} {plain : Bool} {start stop : Mark}
    (h : s.tokens = ⟨.scalar text plain, start, stop⟩ :: rest) (fuel : Nat)
    (block indentless : Bool) :
    composeNode (fuel + 1) block indentless s = .ok (s.nodes.size, { s with
      tokens := rest
      nodes := s.nodes.push ⟨scalarTag none text plain, .scalar text, start⟩
      finished := s.nodes.size :: s.finished }) := by
  rcases s with ⟨tokens, fault, handles, anchors, nodes, finished, depth⟩
  subst h
  exact closeNode_push ⟨rest, fault, handles, anchors, nodes, finished, depth⟩
    ⟨scalarTag none text plain, .sequence [], start⟩ (.scalar text)

/-- There is nothing between the braces. -/
theorem composeNode_braces {start stop start' stop' : Mark}
    (h : s.tokens = ⟨.flowMappingStart, start, stop⟩ :: ⟨.flowMappingEnd, start', stop'⟩ :: rest)
    (hdepth : s.depth < maxNesting) (fuel : Nat) (block indentless : Bool) :
    composeNode (fuel + 2) block indentless s = .ok (s.nodes.size, { s with
      tokens := rest
      nodes := s.nodes.push ⟨standardTag "map", .mapping [], start⟩
      finished := s.nodes.size :: s.finished }) := by
  rcases s with ⟨tokens, fault, handles, anchors, nodes, finished, depth⟩
  subst h
  let opened : Composer := ⟨⟨.flowMappingEnd, start', stop'⟩ :: rest, fault, handles, anchors,
    nodes.push ⟨standardTag "map", .sequence [], start⟩, finished, depth⟩
  have hinside : inside (composeFlowMapping (fuel + 1) start true []) opened =
      .ok ([], { opened with tokens := rest }) := by
    have hroom : ¬ maxNesting ≤ opened.depth := Nat.not_le.mpr hdepth
    unfold inside
    rw [run_get, if_neg hroom]
    rfl
  change (inside (composeFlowMapping (fuel + 1) start true []) >>= fun entries =>
    closeNode nodes.size (.mapping entries)) opened = _
  rw [run_bind hinside]
  exact closeNode_push ⟨rest, fault, handles, anchors, nodes, finished, depth⟩
    ⟨standardTag "map", .sequence [], start⟩ (.mapping [])

theorem composeBlockMapping_end {start stop first : Mark}
    (h : s.tokens = ⟨.blockEnd, start, stop⟩ :: rest) (fuel : Nat) (done : List (Nat × Nat)) :
    composeBlockMapping (fuel + 1) first done s =
      .ok (done.reverse, { s with tokens := rest }) := by
  rcases s with ⟨tokens, fault, handles, anchors, nodes, finished, depth⟩
  subst h
  rfl

/-- An entry has a plain scalar for its key, and its value is a node. -/
theorem composeBlockMapping_entry {key : String} {k k' v v' w w' first : Mark} {t : Token}
    {value : Nat} {s' : Composer} (fuel : Nat)
    (h : s.tokens = ⟨.key, k, k'⟩ :: ⟨.scalar key true, w, w'⟩ :: ⟨.value, v, v'⟩ :: t :: rest)
    (ht : [TokenKind.key, .value, .blockEnd].contains t.kind = false)
    (hvalue : composeNode (fuel + 1) true true { s with
      tokens := t :: rest
      nodes := s.nodes.push ⟨scalarTag none key true, .scalar key, w⟩
      finished := s.nodes.size :: s.finished } = .ok (value, s')) (done : List (Nat × Nat)) :
    composeBlockMapping (fuel + 4) first done s =
      composeBlockMapping (fuel + 3) first ((s.nodes.size, value) :: done) s' := by
  rcases s with ⟨tokens, fault, handles, anchors, nodes, finished, depth⟩
  subst h
  let s₁ : Composer := ⟨⟨.scalar key true, w, w'⟩ :: ⟨.value, v, v'⟩ :: t :: rest, fault, handles,
    anchors, nodes, finished, depth⟩
  let s₂ : Composer := ⟨⟨.value, v, v'⟩ :: t :: rest, fault, handles, anchors,
    nodes.push ⟨scalarTag none key true, .scalar key, w⟩, nodes.size :: finished, depth⟩
  have hkey : composeUnless (fuel + 3) ⟨.key, k, k'⟩ [.key, .value, .blockEnd] true true s₁ =
      .ok (nodes.size, s₂) :=
    composeNode_scalar (s := s₁) rfl (fuel + 1) true true
  have hcolon : composeValue (fuel + 3) [.key, .value, .blockEnd] true s₂ = .ok (value, s') := by
    change (if [TokenKind.key, .value, .blockEnd].contains t.kind then _ else _ : Compose Nat)
      { s₂ with tokens := t :: rest } = _
    rw [ht]
    exact hvalue
  change (composeUnless (fuel + 3) ⟨.key, k, k'⟩ [.key, .value, .blockEnd] true true >>= fun key =>
    composeValue (fuel + 3) [.key, .value, .blockEnd] true >>= fun value =>
    composeBlockMapping (fuel + 3) first ((key, value) :: done)) s₁ = _
  rw [run_bind hkey, run_bind hcolon]

/-- A document that is a mapping shown by indentation. -/
theorem Graph.ofText_of_block {text : List Char} {start stop last : Mark} {tokens : List Token}
    {entries : List (Nat × Nat)} {nodes : Array Node} {finished : List Nat}
    (htokens : TokenStream.ofText text = ⟨⟨.blockMappingStart, start, stop⟩ :: tokens, none⟩)
    (hblock : composeBlockMapping (8 * tokens.length + 23) start [] {
      tokens, fault := none, handles := standardHandles
      nodes := #[⟨standardTag "map", .sequence [], start⟩], depth := 1 } = .ok (entries, {
      tokens := [⟨.streamEnd, last, last⟩], fault := none, handles := standardHandles, nodes
      finished, depth := 1 })) :
    Graph.ofText text = .ok (some ⟨nodes.modify 0 (fun n => { n with content := .mapping entries }),
      (0 :: finished).reverse, 0⟩) := by
  let first : Composer := { tokens := ⟨.blockMappingStart, start, stop⟩ :: tokens, fault := none }
  let opened : Composer := {
    tokens, fault := none, handles := standardHandles
    nodes := #[⟨standardTag "map", .sequence [], start⟩] }
  let last : Composer := {
    tokens := [⟨.streamEnd, last, last⟩], fault := none, handles := standardHandles
    nodes := nodes.modify 0 (fun n => { n with content := .mapping entries })
    finished := 0 :: finished }
  have hinside : inside (composeBlockMapping (8 * tokens.length + 23) start []) opened =
      .ok (entries, { last with nodes := nodes, finished := finished }) := by
    unfold inside
    rw [run_get, if_neg (show ¬ maxNesting ≤ 0 by decide)]
    refine (run_set _ _ _).trans ?_
    rw [run_bind hblock]
    rfl
  have hcontent : composeContent (8 * tokens.length + 24) first = .ok (0, last) := by
    change (inside (composeBlockMapping (8 * tokens.length + 23) start []) >>= fun entries =>
      closeNode 0 (.mapping entries)) opened = _
    rw [run_bind hinside]
    rfl
  have hdocument : composeDocument first = .ok (some 0, last) := by
    have hfuel : 8 * first.tokens.length + 16 = 8 * tokens.length + 24 := by
      rw [List.length_cons]
      omega
    unfold composeDocument
    rw [run_get, run_bind (show nextIs [.streamEnd] first = .ok (false, first) from rfl)]
    change (composeContent (8 * first.tokens.length + 16) >>= fun root => _ :
      Compose (Option Nat)) first = _
    rw [hfuel, run_bind hcontent]
    rfl
  rw [Graph.ofText, htokens]
  dsimp only
  rw [hdocument]

end Yaml

end SimTerm
