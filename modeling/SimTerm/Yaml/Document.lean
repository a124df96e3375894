import SimTerm.Yaml.Node.Composition
import SimTerm.Yaml.Value.Scalar
/-!
# Values of Documents

The value that the outermost node of a document stands for. Scalars are converted where they
are met; a collection is opened first and filled later, in the order in which collections were
met, so that a node may contain itself. Mappings take in the entries of the mappings under
their merge keys, in front of their own, and of equal keys the last one counts.

Two kinds of keys lead on from a mapping: a merge key to mappings that may have merge keys as
well, and a value key to the text that stands for the mapping, which may be that of another
mapping. They can lead back, too. The assembly follows them for a bounded number of steps and
breaks off then.

The values of the nodes are built in rounds, in the order in which the nodes end, so that parts
come before the whole. A part that ends later than its whole has in each round the value of the
round before. Where a value is shown, no such part is opened up twice on one way down, so that
there are enough rounds if there are more of them than such parts.

## Main definitions

* `Yaml.Cell`: What a node stands for, with its parts by number.
* `Yaml.Assembly`: Where the assembly of a document stands.
* `Yaml.convertScalar`: The value of a scalar with a standard tag.
* `Yaml.mergeInto`: Takes in the mappings under merge keys.
* `Yaml.lateCount`: How many parts end later than their whole.
* `Yaml.Value.ofText`: The value of the document in a text.
-/

namespace SimTerm

namespace Yaml

/-- The kinds of collections that tags ask for. -/
inductive Collection where
  /-- Values in a row. -/
  | sequence
  /-- Keys with values in a row, each written as a mapping of its own. -/
  | pairs (called : String)
  /-- Keys alone. -/
  | set
  /-- Keys with their values. -/
  | mapping
deriving Repr, DecidableEq

namespace Collection

/-- The kind of collection that a tag asks for. -/
def ofTag? (tag : String) : Option Collection :=
  if tag == standardTag "seq" then some .sequence
  else if tag == standardTag "omap" then some (.pairs "an ordered map")
  else if tag == standardTag "pairs" then some (.pairs "pairs")
  else if tag == standardTag "set" then some .set
  else if tag == standardTag "map" then some .mapping
  else none

/-- The shape of a kind of collection. -/
def shape : Collection → Shape
  | .sequence => .list
  | .pairs _ => .list
  | .set => .set
  | .mapping => .mapping

end Collection

/-- What a node stands for, with its parts by number. -/
inductive Cell where
  /-- The value of a scalar. -/
  | leaf (v : Value)
  /-- A collection that is not filled yet. -/
  | opened (kind : Collection)
  /-- Values in a row. -/
  | sequence (items : List Nat)
  /-- Keys with values in a row. -/
  | pairs (entries : List (Nat × Nat))
  /-- Keys alone. -/
  | set (entries : List (Nat × Nat))
  /-- Keys with their values. -/
  | mapping (entries : List (Nat × Nat))
deriving Repr

namespace Cell

/-- Whether the value of a cell can be a key. -/
def isKey : Cell → Bool
  | .leaf _ => true
  | _ => false

/-- What is known of a cell at a node before its parts are. -/
def outline (node : Nat) : Cell → Value
  | .leaf v => v
  | .opened kind => .closed node kind.shape
  | .set _ => .closed node .set
  | .mapping _ => .closed node .mapping
  | _ => .closed node .list

/-- The numbers of the parts of a cell. -/
def parts : Cell → List Nat
  | .sequence items => items
  | .pairs entries | .set entries | .mapping entries => entries.flatMap (fun e => [e.1, e.2])
  | _ => []

end Cell

/-- Where the assembly of a document stands. -/
structure Assembly where
  /-- The nodes by number. -/
  nodes : Array Node
  /-- What the nodes met so far stand for. -/
  cells : Array (Option Cell)
  /-- The collections that are opened and not filled, the last one first. -/
  waiting : List Nat := []

/-- A step of the assembly. -/
abbrev Assemble := StateT Assembly (Except Fault)

namespace Assemble

/-- Ends the assembly. -/
def abort {α : Type} (f : Fault) : Assemble α := fun _ => .error f

/-- Ends the assembly with a problem. -/
def reject {α : Type} (p : Problem) : Assemble α := abort (.malformed p)

/-- The node with a number. -/
def node (id : Nat) : Assemble Node := fun s => .ok (s.nodes.getD id default, s)

/-- The entries of a mapping. -/
def entries (id : Nat) : Assemble (List (Nat × Nat)) := do
  return (← node id).content.entries

/-- Gives a mapping other entries. -/
def setEntries (id : Nat) (entries : List (Nat × Nat)) : Assemble Unit :=
  modify (fun s => { s with
    nodes := s.nodes.modify id (fun n => { n with content := .mapping entries }) })

/-- Gives a node another tag. -/
def setTag (id : Nat) (tag : String) : Assemble Unit :=
  modify (fun s => { s with nodes := s.nodes.modify id (fun n => { n with tag }) })

/-- Breaks the assembly off, since keys lead on too far. -/
def tooFar {α : Type} : Assemble α := abort (.halted .tooDeep)

/-- Says what a node stands for. -/
def setCell (id : Nat) (cell : Cell) : Assemble Unit :=
  modify (fun s => { s with cells := s.cells.setIfInBounds id (some cell) })

/-- A conversion as a step of the assembly. -/
def ofConversion {α : Type} : Except Conversion α → Assemble α
  | .ok v => pure v
  | .error c => abort (.halted (.conversion c))

end Assemble

open Assemble

/-- The most steps in a row that merge keys or value keys lead on. A step takes one level of
calls. -/
def maxSteps : Nat := 980

/-- The text of a scalar, or of what a mapping holds under its value key, for some steps. -/
def scalarText : Nat → Nat → Assemble String
  | 0, _ => tooFar
  | steps + 1, id => do
    let n ← node id
    match n.content with
    | .scalar text => return text
    | .sequence _ => reject (.at_ "expected a scalar node, but found sequence" n.mark)
    | .mapping entries =>
      let s ← get
      let isValue (e : Nat × Nat) : Bool := (s.nodes.getD e.1 default).tag == standardTag "value"
      match entries.find? isValue with
      | some (_, value) => scalarText steps value
      | none => reject (.at_ "expected a scalar node, but found mapping" n.mark)

/-- The value of a scalar with a standard tag and a text, at the node with a number. -/
def convertScalar (id : Nat) (n : Node) (text : String) : Assemble Value :=
  let tag := n.tag
  if tag == standardTag "null" then return .null
  else if tag == standardTag "bool" then return .bool (← ofConversion (truthValue text))
  else if tag == standardTag "int" then return .int (← ofConversion (wholeNumber text))
  else if tag == standardTag "float" then ofConversion (numberValue id text)
  else if tag == standardTag "binary" then
    match bytesOf text with
    | .ok bytes => return .binary bytes
    | .error problem => reject (.at_ problem n.mark)
  else if tag == standardTag "timestamp" then
    -- A time is not looked for under the value key of a mapping.
    match n.content with
    | .scalar _ => ofConversion (timeValue text)
    | _ => abort (.halted (.conversion .wrongKind))
  else return .text text

/-- The names of the standard tags of scalars. -/
def scalarTags : List String :=
  ["null", "bool", "int", "float", "binary", "timestamp", "str"].map standardTag

/-- Meets a node: a scalar is converted and a collection is opened, once each. -/
def meet (id : Nat) : Assemble Unit := do
  let s ← get
  if (s.cells.getD id none).isNone then
    let n ← node id
    match Collection.ofTag? n.tag with
    | some kind =>
      setCell id (.opened kind)
      modify (fun s => { s with waiting := id :: s.waiting })
    | none =>
      if scalarTags.contains n.tag then
        let text ← scalarText maxSteps id
        setCell id (.leaf (← convertScalar id n text))
      else
        reject (.at_ ("could not determine a constructor for the tag " ++ quoted n.tag) n.mark)

/-- Puts the entries that a mapping takes in in front of its own, which are all without merge
keys by now. Keys that are a lone equals sign become texts. -/
def finishMerge (id : Nat) (merged : List (Nat × Nat)) : Assemble Unit := do
  let all ← entries id
  for e in all do
    if (← node e.1).tag == standardTag "value" then setTag e.1 (standardTag "str")
  if !merged.isEmpty then setEntries id (merged ++ all)

/-- The entries that a mapping at a node takes in from what is under one of its merge keys:
from a mapping, or from the mappings in a row. Each of them takes in others first. -/
def mergedEntries (take : Nat → Assemble Unit) (id source : Nat) :
    Assemble (List (Nat × Nat)) := do
  let n ← node id
  let v ← node source
  match v.content with
  | .mapping _ =>
    take source
    entries source
  | .sequence items =>
    let mut parts : List (List (Nat × Nat)) := []
    for item in items do
      let i ← node item
      match i.content with
      | .mapping _ =>
        take item
        -- In reverse: of equal keys the one of the first mapping comes last and counts.
        parts := (← entries item) :: parts
      | c =>
        reject (.within "while constructing a mapping" n.mark
          ("expected a mapping for merging, but found " ++ c.name) i.mark)
    return parts.flatten
  | c =>
    reject (.within "while constructing a mapping" n.mark
      ("expected a mapping or list of mappings for merging, but found " ++ c.name) v.mark)

/-- Takes in the entries under the merge keys of a mapping, one key after the other; `merged`
holds those so far. There are no more rounds than entries at the start. -/
def mergeRounds (take : Nat → Assemble Unit) (id : Nat) :
    Nat → List (Nat × Nat) → Assemble Unit
  | 0, merged => finishMerge id merged
  | rounds + 1, merged => do
    let all ← entries id
    let s ← get
    let isOwn (e : Nat × Nat) : Bool := (s.nodes.getD e.1 default).tag != standardTag "merge"
    match all.dropWhile isOwn with
    | [] => finishMerge id merged
    | (_, source) :: rest =>
      -- The merge key goes before what is under it is looked at, so that a mapping that is merged
      -- into itself is met without it.
      setEntries id (all.takeWhile isOwn ++ rest)
      let more ← mergedEntries take id source
      mergeRounds take id rounds (merged ++ more)

/-- Takes in the mappings under the merge keys of a mapping, and those that they take in, for
some steps. -/
def mergeInto : Nat → Nat → Assemble Unit
  | 0, _ => tooFar
  | steps + 1, id => do
    let all ← entries id
    mergeRounds (mergeInto steps) id all.length []

/-- Meets the items of a sequence. -/
def meetItems (id : Nat) : Assemble (List Nat) := do
  let n ← node id
  match n.content with
  | .sequence items =>
    items.forM meet
    return items
  | c => reject (.at_ ("expected a sequence node, but found " ++ c.name) n.mark)

/-- Meets the keys and values of a mapping after the merge. -/
def meetEntries (id : Nat) : Assemble (List (Nat × Nat)) := do
  let n ← node id
  match n.content with
  | .mapping _ =>
    mergeInto maxSteps id
    let all ← entries id
    for (key, value) in all do
      meet key
      let s ← get
      match s.cells.getD key none with
      | some cell =>
        if !cell.isKey then
          reject (.within "while constructing a mapping" n.mark "found unhashable key"
            (← node key).mark)
      | none => pure ()
      meet value
    return all
  | c => reject (.at_ ("expected a mapping node, but found " ++ c.name) n.mark)

/-- Meets the keys and values of a row of pairs. -/
def meetPairs (called : String) (id : Nat) : Assemble (List (Nat × Nat)) := do
  let n ← node id
  let context := "while constructing " ++ called
  match n.content with
  | .sequence items =>
    let mut done : List (Nat × Nat) := []
    for item in items do
      let i ← node item
      match i.content with
      | .mapping [(key, value)] =>
        meet key
        meet value
        done := (key, value) :: done
      | .mapping entries =>
        reject (.within context n.mark
          ("expected a single mapping item, but found " ++ toString entries.length ++ " items")
          i.mark)
      | c =>
        reject (.within context n.mark
          ("expected a mapping of length 1, but found " ++ c.name) i.mark)
    return done.reverse
  | c => reject (.within context n.mark ("expected a sequence, but found " ++ c.name) n.mark)

/-- Fills an opened collection. -/
def fill (id : Nat) (kind : Collection) : Assemble Unit := do
  match kind with
  | .sequence => setCell id (.sequence (← meetItems id))
  | .pairs called => setCell id (.pairs (← meetPairs called id))
  | .set => setCell id (.set (← meetEntries id))
  | .mapping => setCell id (.mapping (← meetEntries id))

/-- Fills the opened collections, round after round, until none is left. -/
def fillAll : Nat → Assemble Unit
  | 0 => pure ()
  | fuel + 1 => do
    let s ← get
    if !s.waiting.isEmpty then
      -- What is met while these are filled waits for the next round.
      set { s with waiting := [] }
      for id in s.waiting.reverse do
        let s ← get
        match s.cells.getD id none with
        | some (.opened kind) => fill id kind
        | _ => pure ()
      fillAll fuel

/-- Stores a value under a key: in the key's place if it has one, else at the end. -/
def setKey (entries : List (Value × Value)) (key value : Value) : List (Value × Value) :=
  match entries with
  | [] => [(key, value)]
  | e :: rest => if e.1.sameKey key then (e.1, value) :: rest else e :: setKey rest key value

/-- Keys with their values, each key once. -/
def distinct (entries : List (Value × Value)) : List (Value × Value) :=
  entries.foldl (fun done e => setKey done e.1 e.2) []

namespace Cell

/-- The value of a cell at a node, from the values of its parts. -/
def value (node : Nat) (part : Nat → Value) : Cell → Value
  | .leaf v => v
  | .opened kind => .closed node kind.shape
  | .sequence items => .sequence node (items.map part)
  | .pairs entries => .pairs node (entries.map (fun e => (part e.1, part e.2)))
  | .set entries =>
    .set ((distinct (entries.map (fun e => (part e.1, part e.2)))).map Prod.fst)
  | .mapping entries =>
    .mapping node (distinct (entries.map (fun e => (part e.1, part e.2))))

end Cell

/-- How many nodes are parts of something that ends before they do. -/
def lateCount (cells : Array (Option Cell)) (finished : List Nat) : Nat :=
  let unmarked := Array.replicate cells.size false
  let step (acc : Array Bool × Array Bool) (id : Nat) : Array Bool × Array Bool :=
    let (ended, late) := acc
    let parts := ((cells.getD id none).map Cell.parts).getD []
    (ended.setIfInBounds id true,
      parts.foldl (fun late part =>
        if ended.getD part false then late else late.setIfInBounds part true) late)
  (finished.foldl step (unmarked, unmarked)).2.count true

/-- How many levels of collections a record has. -/
def recordDepth : Nat := 3

/-- The values of all nodes, from those of an earlier round. -/
def valueRound (cells : Array (Option Cell)) (finished : List Nat) (values : Array Value) :
    Array Value :=
  finished.foldl (fun values id =>
    match cells.getD id none with
    | some cell => values.setIfInBounds id (cell.value id (fun part => values.getD part .null))
    | none => values) values

namespace Graph

/-- The value of the outermost node. -/
def value (g : Graph) : Except Fault Value :=
  let start : Assembly := ⟨g.nodes, Array.replicate g.nodes.size none, []⟩
  match (do meet g.root; fillAll (g.nodes.size + 1) : Assemble Unit) start with
  | .error f => .error f
  | .ok (_, s) =>
    let first := s.cells.mapIdx (fun id c => c.elim Value.null (Cell.outline id))
    let rounds := lateCount s.cells g.finished + recordDepth
    let values := (List.range rounds).foldl (fun vs _ => valueRound s.cells g.finished vs) first
    .ok (values.getD g.root .null)

end Graph

namespace Value

/-- The value of the document in a text; without a document it is absent. -/
def ofText (text : List Char) : Except Fault Value :=
  match Graph.ofText text with
  | .error f => .error f
  | .ok none => .ok .null
  | .ok (some g) => g.value

end Value

end Yaml

end SimTerm
