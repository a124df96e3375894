/-!
# Paths

A path is absolute or relative and has components. Empty components and single dots are
dropped when a path is read; double dots are kept, since what they mean depends on the tree.

## Main definitions

* `Path`: A path in its components.
* `Path.parse`: Reads a path.
* `Path.text`: Writes a path.
* `Path.absoluteText`: Writes components as an absolute path.
* `Path.isEntryName`: Which texts can name an entry of a directory.
-/

namespace SimTerm

/-- A path in its components. -/
structure Path where
  /-- Whether the path starts at the root. -/
  isAbsolute : Bool
  /-- The components between the slashes. -/
  components : List String
deriving Repr, DecidableEq

namespace Path

/-- The character between two components. -/
def separator : Char := '/'

/-- The pieces of a text between its slashes. -/
def pieces (s : String) : List String := (s.toList.splitOn separator).map String.ofList

/-- Whether a piece is a component: neither empty nor a single dot. -/
def isComponent (s : String) : Bool := s != "" && s != "."

/-- Reads a path. -/
def parse (s : String) : Path where
  isAbsolute := s.toList.head? == some separator
  components := (pieces s).filter isComponent

/-- Components with a slash between two of them. -/
def joined (components : List String) : String :=
  String.ofList ([separator].intercalate (components.map String.toList))

/-- Components as an absolute path. -/
def absoluteText (components : List String) : String := "/" ++ joined components

/-- A path as text; the relative path without components is a single dot. -/
def text (p : Path) : String :=
  if p.isAbsolute then absoluteText p.components
  else if p.components.isEmpty then "." else joined p.components

/-- Whether a text can name an entry of a directory. -/
def isEntryName (s : String) : Bool :=
  s != "" && s != "." && s != ".." && !s.toList.contains separator

end Path

end SimTerm
