import SimTerm.Config.Settings
import SimTerm.FileSystem.Node
import SimTerm.FileSystem.RcFiles
import SimTerm.Journal.Event
import SimTerm.Path
/-!
# The File System

A directory tree with a current directory. The current directory is kept as a chain of names;
when a part of the chain is gone, the deepest directory that is still there takes its place.
A path is walked one component at a time with the visited nodes on a trail, so that a double
dot leads back to where the walk came from.

## Main definitions

* `FileSystem`: The tree, the current directory and the looks of new nodes.
* `Trail`: The nodes that a walk has visited below the root.
* `FileSystem.walk?`: Walks a path.
* `FileSystem.resolve?`: The node that a path names.
* `FileSystem.changeDirectory?`: Makes the directory that a path names the current one.
* `FileSystem.createFile?`, `FileSystem.createDirectory?`: New entries of the current
  directory.
-/

namespace SimTerm

/-- The names and nodes that a walk has visited below the root, the last one first. -/
abbrev Trail := List (String × Node)

namespace Trail

/-- Where a trail ends. -/
def node (root : Node) : Trail → Node
  | [] => root
  | (_, n) :: _ => n

/-- The names on a trail, from the root on. -/
def names (t : Trail) : List String := (t.map Prod.fst).reverse

/-- Follows a chain of names as far as it leads through directories. -/
def follow (root : Node) : Trail → List String → Trail
  | t, [] => t
  | t, name :: rest =>
    match (t.node root).child? name with
    | none => t
    | some c => if c.isDirectory then follow root ((name, c) :: t) rest else t

/-- Walks components. Each of them needs a directory to start from; a double dot goes back
one step and stays at the root; any other component has to be a child. -/
def walk? (root : Node) : Trail → List String → Option Trail
  | t, [] => some t
  | t, name :: rest =>
    if !(t.node root).isDirectory then none
    else if name == ".." then walk? root t.tail rest
    else
      match (t.node root).child? name with
      | none => none
      | some c => walk? root ((name, c) :: t) rest

end Trail

/-- A directory tree with a current directory. -/
structure FileSystem where
  /-- The root directory. -/
  root : Node
  /-- The names that lead to the current directory. -/
  cwd : List String
  /-- The looks of new nodes. -/
  settings : FileSettings
deriving Repr

namespace FileSystem

/-- A new directory with the looks of the settings. -/
def newDirectory (s : FileSettings) (now : Moment) (name : String) (children : List Node) :
    Node :=
  .directory ⟨name, s.directoryPermissions, now⟩ s.directorySize children

/-- A new file with the looks of the settings. -/
def newFile (s : FileSettings) (now : Moment) (name content : String) : Node :=
  .file ⟨name, s.filePermissions, now⟩ content

/-- The tree that every new session starts with. -/
def standardTree (s : FileSettings) (now : Moment) : Node :=
  let d := newDirectory s now
  let f := newFile s now
  d "/" [
    d "home" [
      d "user" [
        f "welcome.txt" RcFiles.welcome,
        f ".bashrc" RcFiles.bash,
        f ".zshrc" RcFiles.zsh,
        d ".config" [d "fish" [f "config.fish" RcFiles.fish]],
        f "Microsoft.PowerShell_profile.ps1" RcFiles.powershell,
        d "documents" []]],
    d "usr" [d "bin" []]]

/-- The file system that a new session starts with. -/
def standard (s : FileSettings) (now : Moment) : FileSystem := ⟨standardTree s now, [], s⟩

/-- The file system with nothing but its root. -/
def bare (s : FileSettings) (now : Moment) : FileSystem := ⟨newDirectory s now "/" [], [], s⟩

/-- The trail to the deepest directory of the current chain that is still there. -/
def liveTrail (fs : FileSystem) : Trail := Trail.follow fs.root [] fs.cwd

/-- The current directory. -/
def currentDirectory (fs : FileSystem) : Node := fs.liveTrail.node fs.root

/-- The current chain of names as an absolute path. -/
def cwdText (fs : FileSystem) : String := Path.absoluteText fs.cwd

/-- Walks a path from the root or from the current directory. -/
def walk? (fs : FileSystem) (path : String) : Option Trail :=
  let p := Path.parse path
  Trail.walk? fs.root (if p.isAbsolute then [] else fs.liveTrail) p.components

/-- The node that a path names. -/
def resolve? (fs : FileSystem) (path : String) : Option Node :=
  (fs.walk? path).map (Trail.node fs.root)

/-- The chain of names that a path leads to. -/
def chain? (fs : FileSystem) (path : String) : Option (List String) :=
  (fs.walk? path).map Trail.names

/-- Whether a path names a node. -/
def contains (fs : FileSystem) (path : String) : Bool := (fs.resolve? path).isSome

/-- Whether a path names a directory. -/
def isDirectory (fs : FileSystem) (path : String) : Bool :=
  (fs.resolve? path).any Node.isDirectory

/-- Whether a path names a file. -/
def isFile (fs : FileSystem) (path : String) : Bool :=
  (fs.resolve? path).any (fun n => !n.isDirectory)

/-- The children of the directory that a path names, or of the current directory. -/
def list (fs : FileSystem) (path : Option String) : List Node :=
  match path with
  | none => fs.currentDirectory.children
  | some p => if p.isEmpty then fs.currentDirectory.children
    else ((fs.resolve? p).map Node.children).getD []

/-- The text of the file that a path names. -/
def read? (fs : FileSystem) (path : String) : Option String :=
  (fs.resolve? path).bind Node.content?

/-- Makes the directory that a path names the current one. The root, the parent and the
directory itself, written in the shortest way, are always there. -/
def changeDirectory? (fs : FileSystem) (path : String) : Option FileSystem :=
  if path == "/" then some { fs with cwd := [] }
  else if path == ".." then some { fs with cwd := fs.cwd.dropLast }
  else if path == "." then some fs
  else
    match fs.walk? path with
    | none => none
    | some t =>
      if (t.node fs.root).isDirectory then some { fs with cwd := t.names } else none

/-- Adds a child to the directory at the end of a chain of names. -/
def attach? (fs : FileSystem) (now : Moment) (chain : List String) (child : Node) :
    Option FileSystem :=
  match (Node.find? chain fs.root).bind (Node.addChild? now child) with
  | none => none
  | some changed => some { fs with root := Node.update (fun _ => changed) chain fs.root }

/-- Adds a new directory to the current one. -/
def createDirectory? (fs : FileSystem) (now : Moment) (name : String) : Option FileSystem :=
  if Path.isEntryName name then
    fs.attach? now fs.liveTrail.names (newDirectory fs.settings now name [])
  else none

/-- Adds a new file to the current directory. -/
def createFile? (fs : FileSystem) (now : Moment) (name content : String) :
    Option FileSystem :=
  if Path.isEntryName name then
    fs.attach? now fs.liveTrail.names (newFile fs.settings now name content)
  else none

/-- Removes the children of a name from the directory at the end of a chain of names. -/
def detach (fs : FileSystem) (chain : List String) (name : String) : FileSystem :=
  { fs with root := Node.update (Node.removeChild name) chain fs.root }

/-- A changed file system if there is one, and whether there is. -/
def settle (fs : FileSystem) (changed : Option FileSystem) (done refused : List Event) :
    Traced (Bool × FileSystem) :=
  match changed with
  | some fs' => ⟨(true, fs'), done⟩
  | none => ⟨(false, fs), refused⟩

/-- Changes the current directory, or reports that the path names none. -/
def changeDirectory (fs : FileSystem) (path : String) : Traced (Bool × FileSystem) :=
  fs.settle (fs.changeDirectory? path) [] [.directoryRejected path]

/-- Adds a new directory to the current one and reports it. -/
def createDirectory (fs : FileSystem) (now : Moment) (name : String) :
    Traced (Bool × FileSystem) :=
  fs.settle (fs.createDirectory? now name) [.directoryCreated fs.cwdText name] []

/-- Adds a new file to the current directory and reports it. -/
def createFile (fs : FileSystem) (now : Moment) (name content : String) :
    Traced (Bool × FileSystem) :=
  fs.settle (fs.createFile? now name content)
    [.fileCreated fs.cwdText name content.length] []

/-- The file system after the settings it works with may have changed. -/
def withSettings (fs : FileSystem) (s : Section FileSettings) : FileSystem :=
  { fs with settings := s.getD fs.settings }

end FileSystem

end SimTerm
