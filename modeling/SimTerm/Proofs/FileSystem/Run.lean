import SimTerm.Proofs.FileSystem.Growth
import SimTerm.Proofs.FileSystem.Walk

/-!
# Runs of a File System

The states that a file system gets into, and what holds of all of them.

A file system is asked for something by one request at a time, and nodes may
be hung into its tree from outside, under any name and anywhere. What that can
do to the tree and to the current chain is said here once for a step and from
that for a run.

The tree and the current chain are kept apart, and nothing but the steps keeps
the one in line with the other. The invariant is `Sound`: names are distinct
in every directory, and the current chain leads through directories and is
made of names that entries can have. The last part is what makes a written
chain readable. It holds although entries may have names like a double dot, an
empty text or one with a slash in it. No path has such a component, so no walk
goes through such an entry.

Everything that one would rely on follows from it without a look at the run:
the current chain, written as a path, is read back as it is, leads to the
current directory, and entering it changes nothing (`Coherent`).

## Main definitions

* `Request`, `Reply`, `answer`: What can be asked for, and the answer.
* `Step`, `after`, `run`: A request or a node from outside, and runs of those.
* `Reachable`: The states of a run from a new file system.
* `Sound`: What every step keeps.
* `Coherent`: What a file system can be relied on for.

## Theorems

* `standardTree_distinct`: The standard tree has distinct names.
* `Sound.after`: Every step keeps a file system sound.
* `Sound.coherent`: A sound file system is coherent.
* `reachable_coherent`: So every file system is that a run leads to.
* `reachable_coherent_odd`: The same after nodes with odd names were added.
-/

namespace SimTerm

namespace FileSystem

/-- What can be asked of a file system. -/
inductive Request where
  /-- Another directory is to be the current one. -/
  | changeDirectory (path : String)
  /-- The children of a directory. -/
  | list (path : Option String)
  /-- The text of a file. -/
  | read (path : String)
  /-- The node that a path names. -/
  | resolve (path : String)
  /-- A new directory. -/
  | createDirectory (now : Moment) (name : String)
  /-- A new file. -/
  | createFile (now : Moment) (name content : String)

/-- What a file system answers. -/
inductive Reply where
  /-- Whether it was done. -/
  | done (success : Bool)
  /-- Some nodes. -/
  | nodes (found : List Node)
  /-- A text, if there is one. -/
  | text (content : Option String)
  /-- A node, if there is one, and the chain of names that leads to it. -/
  | node (chain : Option (List String)) (found : Option Node)

/-- The answer to a request, and the file system after it. -/
def answer (fs : FileSystem) : Request → Reply × FileSystem
  | .changeDirectory path =>
    (.done (fs.changeDirectory path).value.1, (fs.changeDirectory path).value.2)
  | .list path => (.nodes (fs.list path), fs)
  | .read path => (.text (fs.read? path), fs)
  | .resolve path => (.node (fs.chain? path) (fs.resolve? path), fs)
  | .createDirectory now name =>
    (.done (fs.createDirectory now name).value.1, (fs.createDirectory now name).value.2)
  | .createFile now name content =>
    (.done (fs.createFile now name content).value.1, (fs.createFile now name content).value.2)

/-- What can happen to a file system. -/
inductive Step where
  /-- Something is asked of it. -/
  | request (r : Request)
  /-- A node is hung into its tree from outside. The node may have any name, and
      whatever is below it has distinct names. -/
  | attach (now : Moment) (chain : List String) (child : Node) (hchild : child.HasDistinctNames)

/-- The file system after a step. A node that cannot be hung in is not. -/
def after (fs : FileSystem) : Step → FileSystem
  | .request r => (fs.answer r).2
  | .attach now chain child _ => (fs.attach? now chain child).getD fs

/-- The file system after some steps. -/
def run (fs : FileSystem) (steps : List Step) : FileSystem := steps.foldl after fs

/-- The file system is the end of a run from a new one, with the standard tree
    or with nothing but its root. -/
def Reachable (fs : FileSystem) : Prop :=
  ∃ settings now steps,
    (standard settings now).run steps = fs ∨ (bare settings now).run steps = fs

/-- What every step keeps. -/
structure Sound (fs : FileSystem) : Prop where
  /-- No directory has two entries of one name. -/
  distinct : fs.root.HasDistinctNames
  /-- The current directory is there. -/
  placed : fs.IsPlaced
  /-- The current chain is made of names of entries. -/
  names : ∀ name ∈ fs.cwd, Path.isEntryName name = true

/-- What a file system can be relied on for. -/
structure Coherent (fs : FileSystem) : Prop where
  /-- No directory has two entries of one name. -/
  distinct : fs.root.HasDistinctNames
  /-- Each entry is found under its own name. -/
  ownName : ∀ chain d, Node.find? chain fs.root = some d →
    ∀ c ∈ d.children, d.child? c.name = some c
  /-- The current chain is made of names of entries. -/
  names : ∀ name ∈ fs.cwd, Path.isEntryName name = true
  /-- The current directory is there. -/
  placed : fs.IsPlaced
  /-- The written current chain is read back as it is. -/
  parse : Path.parse fs.cwdText = ⟨true, fs.cwd⟩
  /-- It leads to the current directory. -/
  resolve : fs.resolve? fs.cwdText = some fs.currentDirectory
  /-- It does so by way of the current chain. -/
  chain : fs.chain? fs.cwdText = some fs.cwd
  /-- Entering it changes nothing. -/
  stay : fs.changeDirectory fs.cwdText = ⟨(true, fs), []⟩

/-! ### Requests that may change something -/

theorem answer_changeDirectory (fs : FileSystem) (path : String) :
    fs.answer (.changeDirectory path)
      = (.done (fs.changeDirectory? path).isSome, (fs.changeDirectory? path).getD fs) := by
  rw [answer, changeDirectory, settle_value]

theorem answer_createDirectory (fs : FileSystem) (now : Moment) (name : String) :
    fs.answer (.createDirectory now name)
      = (.done (fs.createDirectory? now name).isSome, (fs.createDirectory? now name).getD fs) := by
  rw [answer, createDirectory, settle_value]

theorem answer_createFile (fs : FileSystem) (now : Moment) (name content : String) :
    fs.answer (.createFile now name content)
      = (.done (fs.createFile? now name content).isSome,
        (fs.createFile? now name content).getD fs) := by
  rw [answer, createFile, settle_value]

/-! ### New file systems -/

@[simp] theorem newDirectory_name (s : FileSettings) (now : Moment) (name : String)
    (cs : List Node) : (newDirectory s now name cs).name = name := rfl

@[simp] theorem newFile_name (s : FileSettings) (now : Moment) (name content : String) :
    (newFile s now name content).name = name := rfl

@[simp] theorem newDirectory_distinct (s : FileSettings) (now : Moment) (name : String)
    (cs : List Node) : (newDirectory s now name cs).HasDistinctNames ↔
      (cs.map Node.name).Nodup ∧ ∀ c ∈ cs, c.HasDistinctNames :=
  Node.hasDistinctNames_iff _

@[simp] theorem newFile_distinct (s : FileSettings) (now : Moment) (name content : String) :
    (newFile s now name content).HasDistinctNames :=
  .file _ _

/-- The standard tree has distinct names. -/
theorem standardTree_distinct (s : FileSettings) (now : Moment) :
    (standardTree s now).HasDistinctNames := by
  simp [standardTree]

theorem sound_standard (s : FileSettings) (now : Moment) : (standard s now).Sound :=
  ⟨standardTree_distinct s now, ⟨rfl, rfl⟩, fun _ hname => absurd hname List.not_mem_nil⟩

theorem sound_bare (s : FileSettings) (now : Moment) : (bare s now).Sound :=
  ⟨by simp [bare], ⟨rfl, rfl⟩, fun _ hname => absurd hname List.not_mem_nil⟩

/-! ### Steps -/

variable {fs : FileSystem}

theorem Sound.changeDirectory (h : fs.Sound) (path : String) :
    ((fs.changeDirectory? path).getD fs).Sound := by
  rcases changeDirectory?_cases h.placed path with ⟨t, hwalk, -, hcd, -, hplaced⟩ | ⟨-, hcd⟩
  · rw [hcd]
    exact ⟨h.distinct, hplaced, fs.walk?_isEntryName path t h.names hwalk⟩
  · rw [hcd]
    exact h

/-- An entry that is added anywhere leaves the current directory where it is. -/
theorem Sound.attach (h : fs.Sound) (now : Moment) (chain : List String) (child : Node)
    (hchild : child.HasDistinctNames) : ((fs.attach? now chain child).getD fs).Sound := by
  rcases fs.attach?_cases now chain child with hnone | ⟨d, changed, hfind, hgains, hsome⟩
  · rw [hnone]
    exact h
  · rw [hsome, Option.getD_some]
    refine ⟨?_, ⟨?_, ?_⟩, h.names⟩
    · exact h.distinct.put ((h.distinct.find? chain d hfind).gains hchild hgains) chain
        (hgains.name_eq_last chain fs.root hfind)
    · have hroot := Node.isDirectory_put changed chain fs.root d hfind hgains.isDirectory_eq
      exact hroot.trans h.placed.root
    · exact Node.hasDirectories_put child d changed hgains chain fs.cwd fs.root hfind h.placed.cwd

/-- Where a name cannot be that of an entry, nothing is added. -/
theorem Sound.create (h : fs.Sound) (now : Moment) (name : String) (child : Node)
    (hchild : child.HasDistinctNames) :
    ((if Path.isEntryName name = true then fs.attach? now fs.liveTrail.names child
      else none).getD fs).Sound := by
  by_cases hname : Path.isEntryName name = true
  · rw [if_pos hname]
    exact h.attach now fs.liveTrail.names child hchild
  · rw [if_neg hname]
    exact h

/-- Every step keeps a file system sound. -/
theorem Sound.after (h : fs.Sound) (step : Step) : (fs.after step).Sound := by
  cases step with
  | attach now chain child hchild => exact h.attach now chain child hchild
  | request r =>
      rw [FileSystem.after]
      cases r with
      | changeDirectory path =>
          rw [answer_changeDirectory]
          exact h.changeDirectory path
      | createDirectory now name =>
          rw [answer_createDirectory, createDirectory?]
          exact h.create now name _ (by simp)
      | createFile now name content =>
          rw [answer_createFile, createFile?]
          exact h.create now name _ (by simp)
      -- The others only look.
      | list path => exact h
      | read path => exact h
      | resolve path => exact h

theorem Sound.run (h : fs.Sound) (steps : List Step) : (fs.run steps).Sound := by
  induction steps generalizing fs with
  | nil => exact h
  | cons step rest ih => exact ih (h.after step)

theorem Reachable.sound (h : fs.Reachable) : fs.Sound := by
  rcases h with ⟨settings, now, steps, rfl | rfl⟩
  · exact (sound_standard settings now).run steps
  · exact (sound_bare settings now).run steps

/-! ### What can be relied on -/

/-- A sound file system is coherent. -/
theorem Sound.coherent (h : fs.Sound) : fs.Coherent := by
  have hnames := h.placed.names_liveTrail
  -- The current directory is one that can be entered by its written chain.
  have hwalk : fs.walk? fs.cwdText = some fs.liveTrail := by
    have hlive := fs.walk?_absoluteText fs.liveTrail fs.liveTrail_isWay
    rw [hnames] at hlive
    exact hlive h.names
  have hcd : fs.changeDirectory? fs.cwdText = some fs := by
    have hdir : (fs.liveTrail.node fs.root).isDirectory = true :=
      h.placed.isDirectory_currentDirectory
    rw [changeDirectory?_eq h.placed, hwalk, Option.bind_some, if_pos hdir,
      h.placed.entered_liveTrail]
  exact {
    distinct := h.distinct
    ownName := fun chain d hd c hc => (h.distinct.find? chain d hd).child?_name c hc
    names := h.names
    placed := h.placed
    parse := Path.parse_absoluteText_of_isEntryName fs.cwd h.names
    resolve := fs.resolve?_of_walk? fs.cwdText fs.liveTrail hwalk
    chain := by rw [fs.chain?_of_walk? fs.cwdText fs.liveTrail hwalk, hnames]
    stay := by rw [FileSystem.changeDirectory, hcd]; rfl }

/-- Every file system that a run leads to is coherent. -/
theorem reachable_coherent (fs : FileSystem) (h : fs.Reachable) : fs.Coherent :=
  h.sound.coherent

/-- Directories with odd names are hung in next to an ordinary one, and some of
    them are asked for. -/
def oddSteps (now : Moment) : List Step := [
  .request (.createDirectory now "a"),
  .attach now ["a"] (newDirectory {} now ".." []) (by simp),
  .attach now ["a"] (newDirectory {} now "" []) (by simp),
  .attach now ["a", ".."] (newDirectory {} now "b/c" []) (by simp),
  .request (.changeDirectory "a"),
  .request (.changeDirectory "../a//..//b/c"),
  .request (.changeDirectory ".//../a/.")]

/-- After these steps the ordinary directory is the current one, and all is as
    it should be. -/
theorem reachable_coherent_odd :
    ((bare {} ⟨2024, 3, 5, 6, 7, 8⟩).run (oddSteps ⟨2024, 3, 5, 6, 7, 8⟩)).Reachable ∧
      ((bare {} ⟨2024, 3, 5, 6, 7, 8⟩).run (oddSteps ⟨2024, 3, 5, 6, 7, 8⟩)).cwd = ["a"] ∧
      ((bare {} ⟨2024, 3, 5, 6, 7, 8⟩).run (oddSteps ⟨2024, 3, 5, 6, 7, 8⟩)).Coherent := by
  have h : ((bare {} ⟨2024, 3, 5, 6, 7, 8⟩).run (oddSteps ⟨2024, 3, 5, 6, 7, 8⟩)).Reachable :=
    ⟨{}, _, _, .inr rfl⟩
  exact ⟨h, by decide, reachable_coherent _ h⟩

end FileSystem

end SimTerm
