import SimTerm.Proofs.Yaml.Steps
import SimTerm.Yaml.Node.Composition

/-!
# Faults of the Composition

What can keep the nodes of a document from being composed.

Composing nodes looks at kinds of tokens and never at what a scalar says, so it
has problems with the form of a document only. There are two other ways to end.
Too many collections may be open at once, and then it breaks off. And the tokens
may be used up early, and then it ends with what ended the reading of tokens.
That fault is handed on as it is, so it has to be known that no step changes it.
All this is said of a step by `Steady`.

The functions for nodes call each other with less fuel, so all of them are
steady by one induction (`steadyNodes`). What it goes through is gathered in a
structure with a field for each function.

## Main definitions

* `Steady`: A step has no faults but problems, too many open collections and the
  end of its tokens.
* `SteadyNodes`: All steps that compose nodes with some fuel are steady.

## Theorems

* `steadyNodes`: They are, with any fuel.
* `Graph.fault_of_ofText`: Why the nodes of a text cannot be composed.
-/

namespace SimTerm

namespace Yaml

/-- A step keeps what ended the reading of tokens, and has no other fault than
    that or a problem or too many open collections. -/
abbrev Steady {α : Type} (fault : Option Fault) (m : Compose α) : Prop :=
  Keeps (fun s => s.fault = fault)
    (fun f => (∃ p, f = .malformed p) ∨ f = .halted .tooDeep ∨ fault = some f) m (fun _ => True)

variable {fault : Option Fault}

/-! ### Tokens and new nodes -/

theorem steady_pure {α : Type} (a : α) : Steady fault (pure a) := .pure trivial

theorem steady_fail {α : Type} (p : Problem) : Steady fault (fail p : Compose α) :=
  fun _ _ => .inl ⟨p, rfl⟩

theorem steady_tooNested {α : Type} : Steady fault (tooNested : Compose α) :=
  fun _ _ => .inr (.inl rfl)

theorem steady_peekToken : Steady fault peekToken := by
  intro s hs
  unfold peekToken
  cases s.tokens with
  | cons t rest => exact ⟨hs, trivial⟩
  | nil =>
      -- Without tokens the step ends as their reading did.
      cases hf : s.fault with
      | none => exact .inl ⟨_, rfl⟩
      | some f => exact .inr (.inr (hs.symm.trans hf))

theorem steady_takeToken : Steady fault takeToken :=
  .bind steady_peekToken fun t _ => .bind (.modify fun _ hs => hs) fun _ _ => steady_pure t

theorem steady_nextIs (kinds : List TokenKind) : Steady fault (nextIs kinds) :=
  .bind steady_peekToken fun _ _ => steady_pure _

theorem steady_unexpected {α : Type} (context : String) (start : Mark) (expected : String) :
    Steady fault (unexpected context start expected : Compose α) :=
  .bind steady_peekToken fun _ _ => steady_fail _

theorem steady_openNode (anchor : Option String) (tag : String) (mark : Mark) :
    Steady fault (openNode anchor tag mark) := by
  refine .bind .get fun s hs => ?_
  dsimp only
  -- An anchor may be there already, otherwise the node is opened.
  split
  · exact .bind (.set hs) fun _ _ => steady_pure _
  · split
    · exact .bind (steady_fail _) fun _ _ => .bind (.set hs) fun _ _ => steady_pure _
    · exact .bind (.set hs) fun _ _ => steady_pure _

theorem steady_closeNode (id : Nat) (content : Content) : Steady fault (closeNode id content) :=
  .bind (.modify fun _ hs => hs) fun _ _ => steady_pure id

theorem steady_emptyScalar (mark : Mark) : Steady fault (emptyScalar mark) :=
  .bind (steady_openNode _ _ _) fun _ _ => steady_closeNode _ _

/-- Parts are composed inside a collection, or too many are open already. -/
theorem steady_inside {α : Type} {parts : Compose α} (hparts : Steady fault parts) :
    Steady fault (inside parts) := by
  refine .bind .get fun s hs => .ite (fun _ => steady_tooNested) fun _ => ?_
  refine .bind (.set hs) fun _ _ => .bind hparts fun a _ => ?_
  exact .bind (.modify fun _ hs => hs) fun _ _ => steady_pure a

/-- A node is opened, its parts are composed, and then it is closed. -/
theorem steady_collection {α : Type} (anchor : Option String) (tag : String) (mark : Mark)
    {parts : Compose α} (hparts : Steady fault parts) (content : α → Content) :
    Steady fault (do
      let id ← openNode anchor tag mark
      let a ← inside parts
      closeNode id (content a)) :=
  .bind (steady_openNode _ _ _) fun _ _ =>
    .bind (steady_inside hparts) fun _ _ => steady_closeNode _ _

/-- Between two items or entries of a flow collection a comma is taken, and what
    follows is steady if it is without one. -/
theorem steady_comma {α : Type} (first : Bool) (rest : Unit → Compose α)
    (hrest : ∀ u, Steady fault (rest u)) (context : String) (start : Mark) (expected : String) :
    Steady fault (if (!first) = true then do
        if (← nextIs [.flowEntry]) = true then do
            let _ ← takeToken
            rest ()
          else do
            let r ← unexpected context start expected
            rest r
      else rest ()) := by
  refine .ite (fun _ => .bind (steady_nextIs _) fun _ _ => .ite (fun _ => ?_) fun _ => ?_)
    fun _ => hrest ()
  · exact .bind steady_takeToken fun _ _ => hrest ()
  · exact .bind (steady_unexpected _ _ _) fun _ _ => hrest _

theorem steady_takeProperties (fuel : Nat) (p : Properties) :
    Steady fault (takeProperties fuel p) := by
  induction fuel generalizing p with
  | zero => exact steady_pure p
  | succ fuel ih =>
      rw [takeProperties]
      refine .bind steady_peekToken fun t _ => ?_
      split
      · exact .ite (fun _ => steady_pure p) fun _ => .bind steady_takeToken fun _ _ => ih _
      · exact .ite (fun _ => steady_pure p) fun _ => .bind steady_takeToken fun _ _ => ih _
      · exact steady_pure p

theorem steady_resolveTag (p : Properties) : Steady fault (resolveTag p) := by
  unfold resolveTag
  split
  · exact steady_pure _
  · exact steady_pure _
  · refine .bind .get fun s _ => ?_
    split
    · exact steady_pure _
    · exact steady_fail _

/-! ### Nodes -/

/-- All steps that compose nodes with some fuel are steady. -/
structure SteadyNodes (fault : Option Fault) (fuel : Nat) : Prop where
  node : ∀ block indentless, Steady fault (composeNode fuel block indentless)
  unlessNext : ∀ t kinds block indentless,
    Steady fault (composeUnless fuel t kinds block indentless)
  value : ∀ kinds block, Steady fault (composeValue fuel kinds block)
  blockSequence : ∀ start done, Steady fault (composeBlockSequence fuel start done)
  indentless : ∀ done, Steady fault (composeIndentless fuel done)
  blockMapping : ∀ start done, Steady fault (composeBlockMapping fuel start done)
  flowSequence : ∀ start first done, Steady fault (composeFlowSequence fuel start first done)
  flowMapping : ∀ start first done, Steady fault (composeFlowMapping fuel start first done)

section Fueled

variable {fuel : Nat} (ih : SteadyNodes fault fuel)

include ih

theorem steady_composeNode (block indentless : Bool) :
    Steady fault (composeNode (fuel + 1) block indentless) := by
  rw [composeNode]
  refine .bind steady_peekToken fun t _ => ?_
  split
  · -- A reference is looked up.
    refine .bind steady_takeToken fun _ _ => .bind .get fun s _ => ?_
    split
    · exact steady_pure _
    · exact steady_fail _
  · refine .bind (steady_takeProperties _ _) fun p _ => .bind (steady_resolveTag p) fun tag _ => ?_
    refine .bind steady_peekToken fun t _ => ?_
    dsimp only
    -- A scalar, a flow collection, or what a block allows for.
    split
    · exact .bind steady_takeToken fun _ _ =>
        .bind (steady_openNode _ _ _) fun _ _ => steady_closeNode _ _
    · exact .bind steady_takeToken fun _ _ =>
        steady_collection _ _ _ (ih.flowSequence _ _ _) .sequence
    · exact .bind steady_takeToken fun _ _ =>
        steady_collection _ _ _ (ih.flowMapping _ _ _) .mapping
    · refine .ite (fun _ => steady_collection _ _ _ (ih.indentless _) .sequence) fun _ => ?_
      refine .ite (fun _ => .bind steady_takeToken fun _ _ =>
        steady_collection _ _ _ (ih.blockSequence _ _) .sequence) fun _ => ?_
      refine .ite (fun _ => .bind steady_takeToken fun _ _ =>
        steady_collection _ _ _ (ih.blockMapping _ _) .mapping) fun _ => ?_
      exact .ite (fun _ => .bind (steady_openNode _ _ _) fun _ _ => steady_closeNode _ _)
        fun _ => steady_fail _

theorem steady_composeUnless (t : Token) (kinds : List TokenKind) (block indentless : Bool) :
    Steady fault (composeUnless (fuel + 1) t kinds block indentless) := by
  rw [composeUnless]
  refine .bind (steady_nextIs kinds) fun _ _ => ?_
  exact .ite (fun _ => steady_emptyScalar _) fun _ => ih.node _ _

theorem steady_composeValue (kinds : List TokenKind) (block : Bool) :
    Steady fault (composeValue (fuel + 1) kinds block) := by
  rw [composeValue]
  refine .bind steady_peekToken fun t _ => ?_
  exact .ite (fun _ => .bind steady_takeToken fun _ _ => ih.unlessNext _ _ _ _)
    fun _ => steady_emptyScalar _

theorem steady_composeBlockSequence (start : Mark) (done : List Nat) :
    Steady fault (composeBlockSequence (fuel + 1) start done) := by
  rw [composeBlockSequence]
  refine .bind steady_peekToken fun t _ =>
    .ite (fun _ => ?_) fun _ => .ite (fun _ => ?_) fun _ => ?_
  · exact .bind steady_takeToken fun _ _ => .bind (ih.unlessNext _ _ _ _) fun _ _ =>
      ih.blockSequence _ _
  · exact .bind steady_takeToken fun _ _ => steady_pure _
  · exact steady_unexpected _ _ _

theorem steady_composeIndentless (done : List Nat) :
    Steady fault (composeIndentless (fuel + 1) done) := by
  rw [composeIndentless]
  refine .bind steady_peekToken fun t _ => .ite (fun _ => ?_) fun _ => steady_pure _
  exact .bind steady_takeToken fun _ _ => .bind (ih.unlessNext _ _ _ _) fun _ _ =>
    ih.indentless _

theorem steady_composeBlockMapping (start : Mark) (done : List (Nat × Nat)) :
    Steady fault (composeBlockMapping (fuel + 1) start done) := by
  rw [composeBlockMapping]
  refine .bind steady_peekToken fun t _ =>
    .ite (fun _ => ?_) fun _ => .ite (fun _ => ?_) fun _ => ?_
  · exact .bind steady_takeToken fun _ _ => .bind (ih.unlessNext _ _ _ _) fun _ _ =>
      .bind (ih.value _ _) fun _ _ => ih.blockMapping _ _
  · exact .bind steady_takeToken fun _ _ => steady_pure _
  · exact steady_unexpected _ _ _

theorem steady_composeFlowSequence (start : Mark) (first : Bool) (done : List Nat) :
    Steady fault (composeFlowSequence (fuel + 1) start first done) := by
  rw [composeFlowSequence]
  refine .bind (steady_nextIs _) fun _ _ => .ite (fun _ => ?_) fun _ => ?_
  · exact .bind steady_takeToken fun _ _ => steady_pure _
  · refine steady_comma first _ (fun _ => ?_) _ _ _
    refine .bind steady_peekToken fun t _ => .ite (fun _ => ?_) fun _ => .ite (fun _ => ?_)
      fun _ => ?_
    · -- An item with a colon is a mapping of one entry.
      refine .bind (steady_openNode _ _ _) fun id _ => .bind steady_takeToken fun _ _ => ?_
      refine .bind (steady_inside (ih.unlessNext _ _ _ _)) fun _ _ => ?_
      refine .bind (steady_inside (ih.value _ _)) fun _ _ => ?_
      exact .bind (steady_closeNode _ _) fun _ _ => ih.flowSequence _ _ _
    · exact .bind steady_takeToken fun _ _ => steady_pure _
    · exact .bind (ih.node _ _) fun _ _ => ih.flowSequence _ _ _

theorem steady_composeFlowMapping (start : Mark) (first : Bool) (done : List (Nat × Nat)) :
    Steady fault (composeFlowMapping (fuel + 1) start first done) := by
  rw [composeFlowMapping]
  refine .bind (steady_nextIs _) fun _ _ => .ite (fun _ => ?_) fun _ => ?_
  · exact .bind steady_takeToken fun _ _ => steady_pure _
  · refine steady_comma first _ (fun _ => ?_) _ _ _
    refine .bind steady_peekToken fun t _ => .ite (fun _ => ?_) fun _ => .ite (fun _ => ?_)
      fun _ => ?_
    · exact .bind steady_takeToken fun _ _ => .bind (ih.unlessNext _ _ _ _) fun _ _ =>
        .bind (ih.value _ _) fun _ _ => ih.flowMapping _ _ _
    · exact .bind steady_takeToken fun _ _ => steady_pure _
    · exact .bind (ih.node _ _) fun _ _ => .bind steady_peekToken fun _ _ =>
        .bind (steady_emptyScalar _) fun _ _ => ih.flowMapping _ _ _

end Fueled

/-- All steps that compose nodes are steady. -/
theorem steadyNodes (fault : Option Fault) (fuel : Nat) : SteadyNodes fault fuel := by
  induction fuel with
  | zero =>
      -- Without fuel each of them breaks off.
      exact ⟨fun _ _ => steady_tooNested, fun _ _ _ _ => steady_tooNested,
        fun _ _ => steady_tooNested, fun _ _ => steady_tooNested, fun _ => steady_tooNested,
        fun _ _ => steady_tooNested, fun _ _ _ => steady_tooNested, fun _ _ _ => steady_tooNested⟩
  | succ fuel ih =>
      exact {
        node := steady_composeNode ih
        unlessNext := steady_composeUnless ih
        value := steady_composeValue ih
        blockSequence := steady_composeBlockSequence ih
        indentless := steady_composeIndentless ih
        blockMapping := steady_composeBlockMapping ih
        flowSequence := steady_composeFlowSequence ih
        flowMapping := steady_composeFlowMapping ih }

/-! ### Documents -/

theorem steady_takeDirectives (fuel : Nat) (versioned : Bool) (handles : List (String × String)) :
    Steady fault (takeDirectives fuel versioned handles) := by
  induction fuel generalizing versioned handles with
  | zero => exact steady_pure handles
  | succ fuel ih =>
      rw [takeDirectives]
      refine .bind steady_peekToken fun t _ => ?_
      split
      · refine .ite (fun _ => steady_fail _) fun _ => .ite (fun _ => steady_fail _) fun _ => ?_
        exact .bind steady_takeToken fun _ _ => ih _ _
      · exact .ite (fun _ => steady_fail _) fun _ => .bind steady_takeToken fun _ _ => ih _ _
      · exact .bind steady_takeToken fun _ _ => ih _ _
      · exact steady_pure _

theorem steady_takeDocumentStart : Steady fault takeDocumentStart := by
  refine .bind .get fun s _ => .bind (steady_takeDirectives _ _ _) fun handles _ => ?_
  refine .bind (.modify fun _ hs => hs) fun _ _ => .bind (steady_nextIs _) fun _ _ => ?_
  refine .ite (fun _ => ?_) fun _ => ?_
  · exact .bind steady_takeToken fun _ _ => steady_pure _
  · exact .bind steady_peekToken fun _ _ => steady_fail _

theorem steady_skipDocumentEnds (fuel : Nat) : Steady fault (skipDocumentEnds fuel) := by
  induction fuel with
  | zero => exact steady_pure _
  | succ fuel ih =>
      rw [skipDocumentEnds]
      refine .bind (steady_nextIs _) fun _ _ => .ite (fun _ => ?_) fun _ => steady_pure _
      exact .bind steady_takeToken fun _ _ => ih

theorem steady_composeContent (fuel : Nat) : Steady fault (composeContent fuel) := by
  unfold composeContent
  refine .bind steady_peekToken fun t _ => .ite (fun _ => ?_) fun _ => ?_
  · refine .bind steady_takeDocumentStart fun _ _ => .bind steady_peekToken fun _ _ => ?_
    exact .ite (fun _ => steady_emptyScalar _) fun _ => (steadyNodes fault fuel).node _ _
  · exact .bind (.modify fun _ hs => hs) fun _ _ => (steadyNodes fault fuel).node _ _

theorem steady_composeDocument : Steady fault composeDocument := by
  unfold composeDocument
  refine .bind .get fun s _ => .bind (steady_nextIs _) fun _ _ => ?_
  refine .ite (fun _ => steady_pure _) fun _ => .bind (steady_composeContent _) fun root _ => ?_
  -- Behind the document there may only be markers.
  refine .bind (steady_skipDocumentEnds _) fun _ _ => .bind steady_peekToken fun t _ => ?_
  refine .ite (fun _ => steady_pure _) fun _ => ?_
  exact .bind steady_takeDocumentStart fun _ _ => .bind .get fun _ _ => steady_fail _

/-- The nodes of a text cannot be composed for a problem with its form, for too
    many open collections, or for what ended the reading of its tokens. -/
theorem Graph.fault_of_ofText (text : List Char) (f : Fault)
    (h : Graph.ofText text = .error f) :
    (∃ p, f = .malformed p) ∨ f = .halted .tooDeep ∨
      (TokenStream.ofText text).fault = some f := by
  unfold Graph.ofText at h
  dsimp only at h
  have hsteady : Steady (TokenStream.ofText text).fault composeDocument := steady_composeDocument
  rcases hsteady.cases
    { tokens := (TokenStream.ofText text).tokens, fault := (TokenStream.ofText text).fault } rfl with
    ⟨root, s, hrun, _⟩ | ⟨f', hrun, hf'⟩
  · rw [hrun] at h
    cases root <;> exact absurd h (by simp only [reduceCtorEq, not_false_eq_true])
  · rw [hrun] at h
    rw [← Except.error.inj h]
    exact hf'

end Yaml

end SimTerm
