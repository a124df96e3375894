import SimTerm.Json
import SimTerm.Moment
/-!
# Files and Directories

The nodes of a directory tree. A file has a text, a directory has children, each under its own
name and in the order in which they were added.

## Main definitions

* `Node`: A file or a directory.
* `Node.child?`: The child of a directory by name.
* `Node.addChild?`: A directory with one more child.
* `Node.find?`: The node at the end of a chain of names.
* `Node.update`: Changes the node at the end of a chain of names.
-/

namespace SimTerm

/-- What files and directories have in common. -/
structure Stat where
  /-- The name. -/
  name : String
  /-- The permissions, as they are shown. -/
  permissions : Json
  /-- When the node was made or, for a directory, last got a child. -/
  modified : Moment
deriving Repr

/-- A file or a directory. -/
inductive Node where
  /-- A file with its text. -/
  | file (stat : Stat) (content : String)
  /-- A directory with the size that it shows and its children. -/
  | directory (stat : Stat) (shownSize : Json) (children : List Node)
deriving Repr

namespace Node

instance : Inhabited Node := ⟨.file ⟨"", .null, ⟨1970, 1, 1, 0, 0, 0⟩⟩ ""⟩

/-- What a node has in common with all others. -/
def stat : Node → Stat
  | .file s _ => s
  | .directory s _ _ => s

/-- The name of a node. -/
def name (n : Node) : String := n.stat.name

/-- Whether a node is a directory. -/
def isDirectory : Node → Bool
  | .file .. => false
  | .directory .. => true

/-- The children of a directory; a file has none. -/
def children : Node → List Node
  | .file .. => []
  | .directory _ _ cs => cs

/-- The text of a file. -/
def content? : Node → Option String
  | .file _ c => some c
  | .directory .. => none

/-- The size of a node: the length of a file's text, or what a directory shows. -/
def size : Node → Json
  | .file _ c => .int c.length
  | .directory _ size _ => size

/-- The child of a directory by name. -/
def child? (n : Node) (name : String) : Option Node :=
  n.children.find? (fun c => c.name == name)

/-- A directory with one more child, unless it is a file or the child's name is taken. -/
def addChild? (now : Moment) (child : Node) : Node → Option Node
  | .file .. => none
  | .directory s size cs =>
    if cs.any (fun c => c.name == child.name) then none
    else some (.directory { s with modified := now } size (cs ++ [child]))

/-- A node without the children of a name. -/
def removeChild (name : String) : Node → Node
  | .file s c => .file s c
  | .directory s size cs => .directory s size (cs.filter (fun c => c.name != name))

/-- The node at the end of a chain of names. -/
def find? : List String → Node → Option Node
  | [], n => some n
  | name :: rest, n =>
    match n.child? name with
    | none => none
    | some c => find? rest c

/-- Changes the node at the end of a chain of names. -/
def update (f : Node → Node) : List String → Node → Node
  | [], n => f n
  | name :: rest, n =>
    match n with
    | .file s c => .file s c
    | .directory s size cs =>
      .directory s size (cs.map (fun c => if c.name == name then update f rest c else c))

end Node

end SimTerm
