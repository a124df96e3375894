import SimTerm.Yaml.Node
import SimTerm.Yaml.Tag
import SimTerm.Yaml.Token.Stream
/-!
# Nodes from Tokens

The grammar of YAML documents over tokens. A text holds at most one document.

## Main definitions

* `Yaml.Composer`: Where the composition of nodes stands.
* `Yaml.composeNode`: A node with everything in it.
* `Yaml.Graph.ofText`: The nodes of the document in a text.
-/

namespace SimTerm

namespace Yaml

/-- Where the composition of nodes stands. -/
structure Composer where
  /-- The tokens that are left. -/
  tokens : List Token
  /-- What ended the reading of tokens early. -/
  fault : Option Fault
  /-- What the handles of tags stand for. -/
  handles : List (String × String) := []
  /-- The numbers of the nodes with anchors. -/
  anchors : List (String × Nat) := []
  /-- The nodes by number. -/
  nodes : Array Node := #[]
  /-- The numbers of the nodes that ended, the last one first. -/
  finished : List Nat := []
  /-- How many collections are open. -/
  depth : Nat := 0

/-- A step of the composition. -/
abbrev Compose := StateT Composer (Except Fault)

/-- Ends the composition with a problem. -/
def fail {α : Type} (p : Problem) : Compose α := fun _ => stop p

/-- The most collections of a document that are open at once. Composing a collection takes two
levels of calls, so that this is about half of what a caller at the outermost level has room
for. -/
def maxNesting : Nat := 489

/-- Breaks the composition off, since too many collections are open. -/
def tooNested {α : Type} : Compose α := fun _ => .error (.halted .tooDeep)

/-- Composes the parts of a collection, which is open meanwhile. -/
def inside {α : Type} (parts : Compose α) : Compose α := do
  let s ← get
  if maxNesting ≤ s.depth then tooNested
  else
    set { s with depth := s.depth + 1 }
    let a ← parts
    modify (fun s => { s with depth := s.depth - 1 })
    return a

/-- The next token. -/
def peekToken : Compose Token := fun s =>
  match s.tokens with
  | t :: _ => .ok (t, s)
  | [] =>
    match s.fault with
    | some f => .error f
    | none => stop { text := "unexpected end of tokens" }

/-- The next token, which is taken. -/
def takeToken : Compose Token := do
  let t ← peekToken
  modify (fun s => { s with tokens := s.tokens.drop 1 })
  return t

/-- Whether the next token is of one of some kinds. -/
def nextIs (kinds : List TokenKind) : Compose Bool := do
  let t ← peekToken
  return kinds.contains t.kind

/-- A token as messages show it. -/
def shownToken (t : Token) : String := quoted t.kind.name

/-- The next token is not what has to follow. -/
def unexpected {α : Type} (context : String) (start : Mark) (expected : String) : Compose α := do
  let t ← peekToken
  fail (.within context start (expected ++ shownToken t) t.start)

/-- A new node without content, under an anchor if it has one. -/
def openNode (anchor : Option String) (tag : String) (mark : Mark) : Compose Nat := do
  let s ← get
  let id := s.nodes.size
  match anchor with
  | none => pure ()
  | some name =>
    match s.anchors.find? (fun a => a.1 == name) with
    | some (_, first) =>
      fail (.within ("found duplicate anchor " ++ quoted name ++ "; first occurrence")
        (s.nodes.getD first default).mark "second occurrence" mark)
    | none => pure ()
  -- The content is a stand-in until the node is closed. The anchor is known from now on, so
  -- that a node can be a part of itself.
  set { s with
    nodes := s.nodes.push ⟨tag, .sequence [], mark⟩
    anchors := match anchor with
      | some name => s.anchors ++ [(name, id)]
      | none => s.anchors }
  return id

/-- Gives a node its content and ends it. -/
def closeNode (id : Nat) (content : Content) : Compose Nat := do
  modify (fun s => { s with
    nodes := s.nodes.modify id (fun n => { n with content })
    finished := id :: s.finished })
  return id

/-- A scalar that is not written at all. -/
def emptyScalar (mark : Mark) : Compose Nat := do
  let id ← openNode none (plainTag []) mark
  closeNode id (.scalar "")

/-- The anchor and the tag in front of a node, with their places. -/
structure Properties where
  /-- The anchor. -/
  anchor : Option String := none
  /-- The tag with its handle, and its place. -/
  tag : Option (Option String × String × Mark) := none
  /-- Where the first of them starts. -/
  start : Option Mark := none

/-- The anchor and the tag in front of a node, in either order. -/
def takeProperties : Nat → Properties → Compose Properties
  | 0, p => pure p
  | fuel + 1, p => do
    let t ← peekToken
    match t.kind with
    | .anchor name =>
      if p.anchor.isSome then return p
      let _ ← takeToken
      takeProperties fuel { p with anchor := some name, start := p.start.or (some t.start) }
    | .tag handle suffix =>
      if p.tag.isSome then return p
      let _ ← takeToken
      takeProperties fuel
        { p with tag := some (handle, suffix, t.start), start := p.start.or (some t.start) }
    | _ => return p

/-- The tag of a node with its handle resolved. -/
def resolveTag (p : Properties) : Compose (Option String) := do
  match p.tag with
  | none => return none
  | some (none, suffix, _) => return some suffix
  | some (some handle, suffix, mark) =>
    let s ← get
    match (s.handles.find? (fun h => h.1 == handle)) with
    | some (_, start) => return some (start ++ suffix)
    | none =>
      fail { context := some "while parsing a node", contextMark := p.start,
             text := "found undefined tag handle " ++ quoted handle, mark := some mark }

/-- The tag of a sequence or a mapping. -/
def collectionTag (tag : Option String) (name : String) : String :=
  match tag with
  | none => standardTag name
  | some "!" => standardTag name
  | some t => t

/-- The tag of a scalar. -/
def scalarTag (tag : Option String) (text : String) (plain : Bool) : String :=
  match tag with
  | none => if plain then plainTag text.toList else standardTag "str"
  | some "!" => plainTag text.toList
  | some t => t

mutual

/-- A node with everything in it. In a block, sequences and mappings may be shown by
indentation, and as a key or a value in a block a sequence needs no indentation. -/
def composeNode : Nat → Bool → Bool → Compose Nat
  | 0, _, _ => tooNested
  | fuel + 1, block, indentless => do
    let t ← peekToken
    match t.kind with
    -- A reference is the node itself, with no anchor and no tag in front of it.
    | .reference name =>
      let _ ← takeToken
      let s ← get
      match s.anchors.find? (fun a => a.1 == name) with
      | some (_, id) => return id
      | none => fail (.at_ ("found undefined alias " ++ quoted name) t.start)
    | _ =>
      let p ← takeProperties 2 {}
      let tag ← resolveTag p
      let t ← peekToken
      let start := p.start.getD t.start
      match t.kind with
      | .scalar text plain =>
        let _ ← takeToken
        let id ← openNode p.anchor (scalarTag tag text plain) start
        closeNode id (.scalar text)
      | .flowSequenceStart =>
        let _ ← takeToken
        let id ← openNode p.anchor (collectionTag tag "seq") start
        let items ← inside (composeFlowSequence fuel t.start true [])
        closeNode id (.sequence items)
      | .flowMappingStart =>
        let _ ← takeToken
        let id ← openNode p.anchor (collectionTag tag "map") start
        let entries ← inside (composeFlowMapping fuel t.start true [])
        closeNode id (.mapping entries)
      | kind =>
        if indentless && kind == .blockEntry then
          let id ← openNode p.anchor (collectionTag tag "seq") start
          let items ← inside (composeIndentless fuel [])
          closeNode id (.sequence items)
        else if block && kind == .blockSequenceStart then
          let _ ← takeToken
          let id ← openNode p.anchor (collectionTag tag "seq") start
          let items ← inside (composeBlockSequence fuel t.start [])
          closeNode id (.sequence items)
        else if block && kind == .blockMappingStart then
          let _ ← takeToken
          let id ← openNode p.anchor (collectionTag tag "map") start
          let entries ← inside (composeBlockMapping fuel t.start [])
          closeNode id (.mapping entries)
        -- An anchor or a tag with nothing behind it is that of an empty scalar.
        else if p.anchor.isSome || tag.isSome then
          let id ← openNode p.anchor (scalarTag tag "" true) start
          closeNode id (.scalar "")
        else
          let kind := if block then "block" else "flow"
          fail (.within ("while parsing a " ++ kind ++ " node") start
            ("expected the node content, but found " ++ shownToken t) t.start)

/-- A node, or an empty scalar after a token if one of some tokens follows. -/
def composeUnless : Nat → Token → List TokenKind → Bool → Bool → Compose Nat
  | 0, _, _, _, _ => tooNested
  | fuel + 1, t, kinds, block, indentless => do
    if ← nextIs kinds then emptyScalar t.stop else composeNode fuel block indentless

/-- The value of a key; without a colon it is an empty scalar. -/
def composeValue : Nat → List TokenKind → Bool → Compose Nat
  | 0, _, _ => tooNested
  | fuel + 1, kinds, block => do
    let t ← peekToken
    if t.kind == .value then
      let _ ← takeToken
      composeUnless fuel t kinds block block
    else emptyScalar t.start

/-- The items of a sequence shown by indentation; those so far are in reverse. -/
def composeBlockSequence : Nat → Mark → List Nat → Compose (List Nat)
  | 0, _, _ => tooNested
  | fuel + 1, start, done => do
    let t ← peekToken
    if t.kind == .blockEntry then
      let _ ← takeToken
      let item ← composeUnless fuel t [.blockEntry, .blockEnd] true false
      composeBlockSequence fuel start (item :: done)
    else if t.kind == .blockEnd then
      let _ ← takeToken
      return done.reverse
    else unexpected "while parsing a block collection" start "expected <block end>, but found "

/-- The items of a sequence that is not indented. -/
def composeIndentless : Nat → List Nat → Compose (List Nat)
  | 0, _ => tooNested
  | fuel + 1, done => do
    let t ← peekToken
    if t.kind == .blockEntry then
      let _ ← takeToken
      let item ← composeUnless fuel t [.blockEntry, .key, .value, .blockEnd] true false
      composeIndentless fuel (item :: done)
    else return done.reverse

/-- The entries of a mapping shown by indentation. -/
def composeBlockMapping : Nat → Mark → List (Nat × Nat) → Compose (List (Nat × Nat))
  | 0, _, _ => tooNested
  | fuel + 1, start, done => do
    let t ← peekToken
    let closers : List TokenKind := [.key, .value, .blockEnd]
    if t.kind == .key then
      let _ ← takeToken
      let key ← composeUnless fuel t closers true true
      let value ← composeValue fuel closers true
      composeBlockMapping fuel start ((key, value) :: done)
    else if t.kind == .blockEnd then
      let _ ← takeToken
      return done.reverse
    else unexpected "while parsing a block mapping" start "expected <block end>, but found "

/-- The items of a sequence between brackets. An item with a colon is a mapping of one
entry. -/
def composeFlowSequence : Nat → Mark → Bool → List Nat → Compose (List Nat)
  | 0, _, _, _ => tooNested
  | fuel + 1, start, first, done => do
    if ← nextIs [.flowSequenceEnd] then
      let _ ← takeToken
      return done.reverse
    if !first then
      if ← nextIs [.flowEntry] then
        let _ ← takeToken
      else unexpected "while parsing a flow sequence" start "expected ',' or ']', but got "
    let t ← peekToken
    if t.kind == .key then
      let id ← openNode none (standardTag "map") t.start
      let _ ← takeToken
      let key ← inside (composeUnless fuel t [.value, .flowEntry, .flowSequenceEnd] false false)
      let value ← inside (composeValue fuel [.flowEntry, .flowSequenceEnd] false)
      let id ← closeNode id (.mapping [(key, value)])
      composeFlowSequence fuel start false (id :: done)
    else if t.kind == .flowSequenceEnd then
      let _ ← takeToken
      return done.reverse
    else
      let item ← composeNode fuel false false
      composeFlowSequence fuel start false (item :: done)

/-- The entries of a mapping between braces. -/
def composeFlowMapping : Nat → Mark → Bool → List (Nat × Nat) → Compose (List (Nat × Nat))
  | 0, _, _, _ => tooNested
  | fuel + 1, start, first, done => do
    if ← nextIs [.flowMappingEnd] then
      let _ ← takeToken
      return done.reverse
    if !first then
      if ← nextIs [.flowEntry] then
        let _ ← takeToken
      else unexpected "while parsing a flow mapping" start "expected ',' or '\x7d', but got "
    let t ← peekToken
    if t.kind == .key then
      let _ ← takeToken
      let key ← composeUnless fuel t [.value, .flowEntry, .flowMappingEnd] false false
      let value ← composeValue fuel [.flowEntry, .flowMappingEnd] false
      composeFlowMapping fuel start false ((key, value) :: done)
    else if t.kind == .flowMappingEnd then
      let _ ← takeToken
      return done.reverse
    else
      -- A key without a colon has an empty value, which stands in front of the next token.
      let key ← composeNode fuel false false
      let t ← peekToken
      let value ← emptyScalar t.start
      composeFlowMapping fuel start false ((key, value) :: done)

end

/-- The handles of tags that need no directive. -/
def standardHandles : List (String × String) := [("!", "!"), ("!!", tagStart)]

/-- The directives in front of a document. -/
def takeDirectives : Nat → Bool → List (String × String) → Compose (List (String × String))
  | 0, _, handles => pure handles
  | fuel + 1, versioned, handles => do
    let t ← peekToken
    match t.kind with
    | .version major _ =>
      if versioned then fail (.at_ "found duplicate YAML directive" t.start)
      else if major != 1 then
        fail (.at_ "found incompatible YAML document (version 1.* is required)" t.start)
      else
        let _ ← takeToken
        takeDirectives fuel true handles
    | .handle handle start =>
      if handles.any (fun h => h.1 == handle) then
        fail (.at_ ("duplicate tag handle " ++ quoted handle) t.start)
      else
        let _ ← takeToken
        takeDirectives fuel versioned (handles ++ [(handle, start)])
    | .otherDirective =>
      let _ ← takeToken
      takeDirectives fuel versioned handles
    | _ => return handles

/-- The directives and the marker in front of a document. -/
def takeDocumentStart : Compose Unit := do
  let s ← get
  let handles ← takeDirectives (s.tokens.length + 1) false []
  modify (fun s => { s with handles := handles ++ standardHandles })
  if ← nextIs [.documentStart] then
    let _ ← takeToken
  else
    let t ← peekToken
    fail (.at_ ("expected '<document start>', but found " ++ shownToken t) t.start)

/-- Takes markers after a document. -/
def skipDocumentEnds : Nat → Compose Unit
  | 0 => pure ()
  | fuel + 1 => do
    if ← nextIs [.documentEnd] then
      let _ ← takeToken
      skipDocumentEnds fuel

/-- The content of a document, from its first token on. -/
def composeContent (fuel : Nat) : Compose Nat := do
  let t ← peekToken
  if t.kind.isDirective || t.kind == .documentStart then
    takeDocumentStart
    let t ← peekToken
    let closers : List TokenKind := [.documentStart, .documentEnd, .streamEnd]
    if t.kind.isDirective || closers.contains t.kind then emptyScalar t.start
    else composeNode fuel true false
  else
    modify (fun s => { s with handles := standardHandles })
    composeNode fuel true false

/-- The outermost node of the only document, if there is a document. -/
def composeDocument : Compose (Option Nat) := do
  let s ← get
  let count := s.tokens.length
  if ← nextIs [.streamEnd] then return none
  let root ← composeContent (8 * count + 16)
  skipDocumentEnds (count + 1)
  let t ← peekToken
  if t.kind == .streamEnd then return some root
  -- A further document is refused, but what is wrong with its directives is found first.
  takeDocumentStart
  let s ← get
  fail (.within "expected a single document in the stream" (s.nodes.getD root default).mark
    "but found another document" t.start)

/-- The nodes of the document in a text, if there is a document. -/
def Graph.ofText (text : List Char) : Except Fault (Option Graph) :=
  let stream := TokenStream.ofText text
  match composeDocument { tokens := stream.tokens, fault := stream.fault } with
  | .error e => .error e
  | .ok (none, _) => .ok none
  | .ok (some root, s) => .ok (some ⟨s.nodes, s.finished.reverse, root⟩)

end Yaml

end SimTerm
