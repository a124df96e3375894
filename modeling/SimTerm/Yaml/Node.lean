import SimTerm.Yaml.Problem
/-!
# YAML Nodes

The nodes of a document: scalars, sequences and mappings, each with a tag. Nodes are numbered
in the order in which they start and refer to each other by number, so that a node may be
shared and may even contain itself.

## Main definitions

* `Yaml.Content`, `Yaml.Node`: The nodes.
* `Yaml.Graph`: The nodes of a document.
-/

namespace SimTerm

namespace Yaml

/-- What a node holds. -/
inductive Content where
  /-- A text. -/
  | scalar (text : String)
  /-- Nodes in a row. -/
  | sequence (items : List Nat)
  /-- Keys with their values. -/
  | mapping (entries : List (Nat × Nat))
deriving Repr, Inhabited

namespace Content

/-- What a node is called in messages. -/
def name : Content → String
  | .scalar _ => "scalar"
  | .sequence _ => "sequence"
  | .mapping _ => "mapping"

/-- The items of a sequence. -/
def items : Content → List Nat
  | .sequence items => items
  | _ => []

/-- The keys of a mapping with their values. -/
def entries : Content → List (Nat × Nat)
  | .mapping entries => entries
  | _ => []

end Content

/-- A node of a document. -/
structure Node where
  /-- The kind of value that it stands for. -/
  tag : String
  /-- What it holds. -/
  content : Content
  /-- Where it starts. -/
  mark : Mark
deriving Repr, Inhabited

/-- The nodes of a document. -/
structure Graph where
  /-- The nodes by number. -/
  nodes : Array Node
  /-- The numbers of the nodes in the order in which they end. -/
  finished : List Nat
  /-- The number of the outermost node. -/
  root : Nat
deriving Repr

end Yaml

end SimTerm
