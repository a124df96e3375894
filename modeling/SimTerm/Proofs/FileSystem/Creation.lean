import SimTerm.Proofs.FileSystem.Places
import SimTerm.Proofs.FileSystem.Run

/-!
# New Entries

What a new file or directory does to a file system, and what it leaves alone.

Both are made in the same way and differ in the node that is hung in, so a
`NewEntry` stands for either, and everything here is said of both at once. An
entry is made when its name can be that of an entry and is free in the current
directory (`create?_eq_some_iff`). If not, the file system is what it was.

What it becomes otherwise is `withEntry`, one node put in the place of the
current directory. From there on no step of the program is looked at. That the
rest of the tree is untouched is a statement about places
(`FileSystem.Places`), and that paths lead to where they led is the statement
that a walk sees nothing but places. The one thing a walk may find that it did
not find before is the new entry, and then it has gone through its name.

A directory on the way to the current one is another node afterwards, since
the new entry is somewhere below it. So it is not nodes that are compared, but
what is seen of them.

## Main definitions

* `NewEntry`, `create`: A file or a directory that is asked for.
* `withEntry`: The file system with it.
* `Created`: What it is to have the entry and to be the same otherwise.

## Theorems

* `create?_eq_some_iff`: When an entry is made, and what comes of it.
* `walk?_placed`: A walk sees nothing but places.
* `created_withEntry`: The entry is there, and the rest is as it was.
* `run_keeps`: No run loses, retypes or overwrites anything.
* `create_exact`: All of this for what is asked for.
* `create_exact_atHome`: The same for a file in the home directory.
-/

namespace SimTerm

namespace FileSystem

/-- An entry that is asked for. -/
inductive NewEntry where
  /-- A file with a text. -/
  | file (name content : String)
  /-- An empty directory. -/
  | directory (name : String)

namespace NewEntry

/-- The name that the entry is to have. -/
def name : NewEntry → String
  | .file name _ => name
  | .directory name => name

/-- The node that the entry is to be. -/
def node (s : FileSettings) (now : Moment) : NewEntry → Node
  | .file name content => newFile s now name content
  | .directory name => newDirectory s now name []

end NewEntry

/-- Adds a new entry to the current directory. -/
def create (fs : FileSystem) (now : Moment) : NewEntry → Traced (Bool × FileSystem)
  | .file name content => fs.createFile now name content
  | .directory name => fs.createDirectory now name

/-- The file system with a new entry in the current directory, if it can have
    one of that name. -/
def create? (fs : FileSystem) (now : Moment) (e : NewEntry) : Option FileSystem :=
  if Path.isEntryName e.name then
    fs.attach? now fs.liveTrail.names (e.node fs.settings now)
  else none

/-- The current directory with the entry. -/
def directoryWith (fs : FileSystem) (now : Moment) (e : NewEntry) : Node :=
  Node.gained now (e.node fs.settings now) fs.currentDirectory

/-- The file system with the entry in the current directory. -/
def withEntry (fs : FileSystem) (now : Moment) (e : NewEntry) : FileSystem :=
  { fs with root := Node.put (fs.directoryWith now e) fs.cwd fs.root }

/-- A file system has a new entry in its current directory, and nothing else
    about it is new. -/
structure Created (fs : FileSystem) (now : Moment) (e : NewEntry) (fs' : FileSystem) : Prop where
  /-- One is where one was. -/
  cwd : fs'.cwd = fs.cwd
  /-- New nodes look as they did. -/
  settings : fs'.settings = fs.settings
  /-- In the current directory the entry comes last. -/
  list_here : fs'.list none = fs.list none ++ [e.node fs.settings now]
  /-- At each place there is what was there. Only the current directory was
      changed now and has other entries. -/
  places : ∀ chain m, Node.find? chain fs.root = some m →
    ∃ m', Node.find? chain fs'.root = some m' ∧ m'.face = m.face ∧
      (chain ≠ fs.cwd → m'.stat.modified = m.stat.modified ∧
        m'.children.map Node.face = m.children.map Node.face)
  /-- The entry is the only one at a new place. -/
  newPlaces : ∀ chain m, Node.find? chain fs.root = none → Node.find? chain fs'.root = some m →
    chain = fs.cwd ++ [e.name] ∧ m = e.node fs.settings now
  /-- Each path leads to the place that it led to, and so to what was there. -/
  paths : ∀ path m, fs.resolve? path = some m →
    fs'.chain? path = fs.chain? path ∧
      ∃ m', fs'.resolve? path = some m' ∧ m'.face = m.face ∧
        (fs.chain? path ≠ some fs.cwd → m'.stat.modified = m.stat.modified ∧
          (fs'.list (some path)).map Node.face = (fs.list (some path)).map Node.face)
  /-- A path that has led nowhere goes through the name of the entry. -/
  newPaths : ∀ path m, fs.resolve? path = none → fs'.resolve? path = some m →
    e.name ∈ (Path.parse path).components
  /-- The entry is found under its name and under its absolute path. -/
  found : fs'.resolve? e.name = some (e.node fs.settings now) ∧
    fs'.resolve? (Path.absoluteText (fs.cwd ++ [e.name])) = some (e.node fs.settings now)
  /-- From a file one reads what was written. -/
  read : ∀ name content, e = .file name content → fs'.read? name = some content ∧
    fs'.read? (Path.absoluteText (fs.cwd ++ [name])) = some content

variable {fs : FileSystem}

/-! ### When an entry is made -/

theorem create_value (fs : FileSystem) (now : Moment) (e : NewEntry) :
    (fs.create now e).value = ((fs.create? now e).isSome, (fs.create? now e).getD fs) := by
  cases e with
  | file name content => exact fs.settle_value (fs.createFile? now name content) _ _
  | directory name => exact fs.settle_value (fs.createDirectory? now name) _ _

@[simp] theorem node_name (s : FileSettings) (now : Moment) (e : NewEntry) :
    (e.node s now).name = e.name := by
  cases e <;> rfl

theorem node_distinct (s : FileSettings) (now : Moment) (e : NewEntry) :
    (e.node s now).HasDistinctNames := by
  cases e <;> simp [NewEntry.node]

/-- Nothing is below a new entry. -/
theorem node_find? (s : FileSettings) (now : Moment) (e : NewEntry) (chain : List String)
    (m : Node) (h : Node.find? chain (e.node s now) = some m) : chain = [] ∧ m = e.node s now := by
  cases chain with
  | nil => exact ⟨rfl, (Option.some.inj h).symm⟩
  | cons name rest =>
      have hnone : (e.node s now).child? name = none := by cases e <;> rfl
      rw [Node.find?_cons, hnone] at h
      exact absurd h (by simp only [Option.bind_none, reduceCtorEq, not_false_eq_true])

theorem IsPlaced.find?_cwd (h : fs.IsPlaced) :
    Node.find? fs.cwd fs.root = some fs.currentDirectory := by
  have hfind := fs.liveTrail_isWay.find?_names
  rw [h.names_liveTrail] at hfind
  exact hfind

/-- An entry is made when its name can be that of an entry and is free. -/
theorem create?_eq_some_iff (h : fs.IsPlaced) (now : Moment) (e : NewEntry) (fs' : FileSystem) :
    fs.create? now e = some fs' ↔
      Path.isEntryName e.name = true ∧ fs.currentDirectory.child? e.name = none ∧
        fs' = fs.withEntry now e := by
  rw [create?, h.names_liveTrail, attach?_eq, h.find?_cwd, Option.bind_some]
  by_cases hname : Path.isEntryName e.name = true
  · rw [if_pos hname, Option.map_eq_some_iff]
    constructor
    · rintro ⟨changed, hadd, rfl⟩
      rcases (Node.addChild?_eq_some_iff now _ _ changed).mp hadd with ⟨_, hfree, rfl⟩
      rw [node_name] at hfree
      exact ⟨hname, hfree, rfl⟩
    · rintro ⟨_, hfree, rfl⟩
      refine ⟨_, (Node.addChild?_eq_some_iff now _ _ _).mpr ⟨?_, ?_, rfl⟩, rfl⟩
      · exact h.isDirectory_currentDirectory
      · rw [node_name]
        exact hfree
  · rw [if_neg hname]
    simp only [reduceCtorEq, hname, false_and]

theorem gains_directoryWith (h : fs.IsPlaced) (now : Moment) (e : NewEntry)
    (hfree : fs.currentDirectory.child? e.name = none) :
    Node.Gains (e.node fs.settings now) fs.currentDirectory (fs.directoryWith now e) := by
  refine Node.gains_of_addChild? now _ _ _ ((Node.addChild?_eq_some_iff now _ _ _).mpr ⟨?_, ?_, rfl⟩)
  · exact h.isDirectory_currentDirectory
  · rw [node_name]
    exact hfree

/-! ### Walks see places -/

/-- Two file systems with the same current chain have the same walk along a
    path, when every step of it that one can take the other can take too. -/
theorem walk?_placed {fs fs' : FileSystem} (h : fs.IsPlaced) (h' : fs'.IsPlaced)
    (hcwd : fs'.cwd = fs.cwd) (path : String)
    (hstep : ∀ chain name c, name ∈ (Path.parse path).components →
      Node.find? (chain ++ [name]) fs.root = some c → (∃ d', Node.find? chain fs'.root = some d') →
      ∃ c', Node.find? (chain ++ [name]) fs'.root = some c' ∧ c'.isDirectory = c.isDirectory)
    (t : Trail) (ht : fs.walk? path = some t) :
    ∃ t', fs'.walk? path = some t' ∧ t'.names = t.names := by
  rw [walk?] at ht ⊢
  by_cases habs : (Path.parse path).isAbsolute = true
  · rw [if_pos habs] at ht ⊢
    refine Trail.walk?_alike fs.root fs'.root h.root h'.root _ hstep [] [] t trivial trivial rfl ?_ ht
    exact h'.root.trans h.root.symm
  · rw [if_neg habs] at ht ⊢
    refine Trail.walk?_alike fs.root fs'.root h.root h'.root _ hstep _ _ t fs.liveTrail_isWay
      fs'.liveTrail_isWay ?_ ?_ ht
    · rw [h'.names_liveTrail, h.names_liveTrail, hcwd]
    · exact h'.isDirectory_currentDirectory.trans h.isDirectory_currentDirectory.symm

/-- What a path leads to stands at the place that it leads to. -/
theorem resolve?_eq_some_iff (fs : FileSystem) (path : String) (m : Node) :
    fs.resolve? path = some m ↔
      ∃ chain, fs.chain? path = some chain ∧ Node.find? chain fs.root = some m := by
  rw [resolve?, chain?]
  cases hwalk : fs.walk? path with
  | none => simp only [Option.map_none, reduceCtorEq, false_and, exists_false]
  | some t =>
      have hfind := (fs.walk?_isWay path t hwalk).find?_names
      simp only [Option.map_some, Option.some.injEq, exists_eq_left', hfind]

/-! ### The file system with the entry -/

/-- The current directory is where it was, and it is the one with the entry. -/
theorem currentDirectory_withEntry (h : fs.Sound) (now : Moment) (e : NewEntry)
    (hfree : fs.currentDirectory.child? e.name = none) (h' : (fs.withEntry now e).IsPlaced) :
    (fs.withEntry now e).currentDirectory = fs.directoryWith now e := by
  have hgains := gains_directoryWith h.placed now e hfree
  have hlast := hgains.name_eq_last fs.cwd fs.root h.placed.find?_cwd
  have hhere := h'.find?_cwd
  have hput := Node.find?_put_append _ fs.cwd [] fs.root _ hlast h.placed.find?_cwd
  rw [List.append_nil] at hput
  exact Option.some.inj (hhere.symm.trans hput)

theorem sound_withEntry (h : fs.Sound) (now : Moment) (e : NewEntry)
    (hname : Path.isEntryName e.name = true)
    (hfree : fs.currentDirectory.child? e.name = none) : (fs.withEntry now e).Sound := by
  have hmade := (create?_eq_some_iff h.placed now e _).mpr ⟨hname, hfree, rfl⟩
  have hsound := h.create now e.name _ (node_distinct fs.settings now e)
  rw [← create?, hmade] at hsound
  exact hsound

theorem places_withEntry (h : fs.Sound) (now : Moment) (e : NewEntry)
    (hfree : fs.currentDirectory.child? e.name = none) (chain : List String) (m : Node)
    (hm : Node.find? chain fs.root = some m) :
    ∃ m', Node.find? chain (fs.withEntry now e).root = some m' ∧ m'.face = m.face ∧
      (chain ≠ fs.cwd → m'.stat.modified = m.stat.modified ∧
        m'.children.map Node.face = m.children.map Node.face) := by
  have hgains := gains_directoryWith h.placed now e hfree
  have hface := Node.face_gained now (e.node fs.settings now) fs.currentDirectory
  rcases Node.find?_put _ _ _ hgains fs.cwd chain fs.root m h.placed.find?_cwd hm with
    ⟨rest, hrest, hfind, hput⟩ | ⟨_, hput⟩
  · refine ⟨_, hput, Node.face_put _ _ rest m hfind hface, fun hne => ?_⟩
    -- It is above the current directory and not that directory itself.
    cases rest with
    | nil =>
        rw [List.append_nil] at hrest
        exact absurd hrest.symm hne
    | cons name more =>
        refine ⟨Node.modified_put _ name more m, ?_⟩
        exact Node.faces_put _ _ name more m (h.distinct.find? chain m hm) hfind hface
  · exact ⟨m, hput, rfl, fun _ => ⟨rfl, rfl⟩⟩

theorem newPlaces_withEntry (h : fs.Sound) (now : Moment) (e : NewEntry)
    (hfree : fs.currentDirectory.child? e.name = none) (chain : List String) (m : Node)
    (hnone : Node.find? chain fs.root = none)
    (hm : Node.find? chain (fs.withEntry now e).root = some m) :
    chain = fs.cwd ++ [e.name] ∧ m = e.node fs.settings now := by
  have hgains := gains_directoryWith h.placed now e hfree
  rcases Node.find?_of_find?_put _ _ _ hgains fs.cwd chain fs.root m h.placed.find?_cwd hm with
    ⟨m', hm'⟩ | ⟨more, hmore, hfind⟩
  · rw [hnone] at hm'
    exact absurd hm' (by simp only [reduceCtorEq, not_false_eq_true])
  · rcases node_find? fs.settings now e more m hfind with ⟨rfl, hnode⟩
    rw [node_name] at hmore
    exact ⟨hmore, hnode⟩

/-- Each path leads to the place that it led to. -/
theorem chain?_withEntry (h : fs.Sound) (now : Moment) (e : NewEntry)
    (hfree : fs.currentDirectory.child? e.name = none) (h' : (fs.withEntry now e).IsPlaced)
    (path : String) (chain : List String) (hchain : fs.chain? path = some chain) :
    (fs.withEntry now e).chain? path = some chain := by
  rcases Option.map_eq_some_iff.mp hchain with ⟨t, ht, rfl⟩
  have hwalk := walk?_placed h.placed h' rfl path (fun chain name c _ hc _ => by
    rcases places_withEntry h now e hfree _ c hc with ⟨c', hc', hface, _⟩
    exact ⟨c', hc', congrArg Node.Face.isDirectory hface⟩) t ht
  rcases hwalk with ⟨t', ht', hnames⟩
  rw [chain?_of_walk? _ path t' ht', hnames]

/-- A path that does not go through the name of the entry leads nowhere new. -/
theorem chain?_of_withEntry (h : fs.Sound) (now : Moment) (e : NewEntry)
    (hfree : fs.currentDirectory.child? e.name = none) (h' : (fs.withEntry now e).IsPlaced)
    (path : String) (hpath : e.name ∉ (Path.parse path).components) (chain : List String)
    (hchain : (fs.withEntry now e).chain? path = some chain) : fs.chain? path = some chain := by
  rcases Option.map_eq_some_iff.mp hchain with ⟨t, ht, rfl⟩
  have hwalk := walk?_placed h' h.placed rfl path (fun chain name c hname hc _ => by
    cases hold : Node.find? (chain ++ [name]) fs.root with
    | none =>
        -- The step would be to the new entry, under its name.
        have hnew := (newPlaces_withEntry h now e hfree _ c hold hc).1
        have hlast := List.append_inj_right' hnew rfl
        rw [(List.cons.inj hlast).1] at hname
        exact absurd hname hpath
    | some c' =>
        rcases places_withEntry h now e hfree _ c' hold with ⟨c'', hc'', hface, _⟩
        rw [hc, Option.some.injEq] at hc''
        rw [← hc''] at hface
        exact ⟨c', rfl, (congrArg Node.Face.isDirectory hface).symm⟩) t ht
  rcases hwalk with ⟨t', ht', hnames⟩
  rw [chain?_of_walk? _ path t' ht', hnames]

/-- The entry is found by any path that leads to its place. -/
theorem resolve?_withEntry (h : fs.Sound) (now : Moment) (e : NewEntry)
    (hname : Path.isEntryName e.name = true)
    (hfree : fs.currentDirectory.child? e.name = none) :
    (fs.withEntry now e).resolve? e.name = some (e.node fs.settings now) ∧
      (fs.withEntry now e).resolve? (Path.absoluteText (fs.cwd ++ [e.name]))
        = some (e.node fs.settings now) := by
  have hsound := sound_withEntry h now e hname hfree
  have hhere := currentDirectory_withEntry h now e hfree hsound.placed
  have hgains := gains_directoryWith h.placed now e hfree
  have hlive : (fs.withEntry now e).liveTrail.names = fs.cwd := hsound.placed.names_liveTrail
  -- One step from the current directory, and the way to it with that step.
  have hchild : ((fs.withEntry now e).liveTrail.node (fs.withEntry now e).root).child? e.name
      = some (e.node fs.settings now) := by
    rw [← currentDirectory, hhere, hgains.child?, node_name, if_pos rfl]
  have hdots : ¬ (e.name == "..") = true := fun hc =>
    ((Path.isEntryName_iff e.name).mp hname).2.1 (beq_iff_eq.mp hc)
  have hdir := hsound.placed.isDirectory_currentDirectory
  rw [currentDirectory] at hdir
  constructor
  · have hwalk : (fs.withEntry now e).walk? e.name
        = some ((e.name, e.node fs.settings now) :: (fs.withEntry now e).liveTrail) := by
      rw [walk?, Path.parse_of_isEntryName e.name hname, if_neg Bool.false_ne_true, Trail.walk?,
        hdir, if_neg (by decide), if_neg hdots, hchild]
      rfl
    exact resolve?_of_walk? _ _ _ hwalk
  · have hway : Trail.IsWay (fs.withEntry now e).root
        ((e.name, e.node fs.settings now) :: (fs.withEntry now e).liveTrail) :=
      ⟨hchild, (fs.withEntry now e).liveTrail_isWay⟩
    have hnames : ∀ name ∈ fs.cwd ++ [e.name], Path.isEntryName name = true := by
      intro name hmem
      rcases List.mem_append.mp hmem with hcwd | hlast
      · exact h.names name hcwd
      · rw [List.mem_singleton.mp hlast]
        exact hname
    have hwalk := (fs.withEntry now e).walk?_absoluteText _ hway
    rw [Trail.names_cons, hlive] at hwalk
    exact resolve?_of_walk? _ _ _ (hwalk hnames)

/-- The entry is there, and the rest is as it was. -/
theorem created_withEntry (h : fs.Sound) (now : Moment) (e : NewEntry)
    (hname : Path.isEntryName e.name = true)
    (hfree : fs.currentDirectory.child? e.name = none) : Created fs now e (fs.withEntry now e) := by
  have h' := (sound_withEntry h now e hname hfree).placed
  have hfound := resolve?_withEntry h now e hname hfree
  refine ⟨rfl, rfl, ?_, places_withEntry h now e hfree, newPlaces_withEntry h now e hfree, ?_, ?_,
    hfound, ?_⟩
  · rw [list, list, currentDirectory_withEntry h now e hfree h',
      (gains_directoryWith h.placed now e hfree).children]
  · intro path m hm
    rcases (resolve?_eq_some_iff fs path m).mp hm with ⟨chain, hchain, hfind⟩
    have hchain' := chain?_withEntry h now e hfree h' path chain hchain
    rcases places_withEntry h now e hfree chain m hfind with ⟨m', hm', hface, hsame⟩
    have hresolve' := (resolve?_eq_some_iff _ path m').mpr ⟨chain, hchain', hm'⟩
    refine ⟨by rw [hchain', hchain], m', hresolve', hface, fun hne => ?_⟩
    rw [hchain, ne_eq, Option.some.injEq] at hne
    refine ⟨(hsame hne).1, ?_⟩
    -- The empty path is the current directory, so this one is not empty.
    have hpath : ¬ path.isEmpty = true := by
      intro hempty
      rw [String.isEmpty_iff.mp hempty, chain?, walk?, show Path.parse "" = ⟨false, []⟩ by decide,
        if_neg Bool.false_ne_true, Trail.walk?, Option.map_some, h.placed.names_liveTrail,
        Option.some.injEq] at hchain
      exact hne hchain.symm
    rw [list, list, if_neg hpath, if_neg hpath, hresolve', hm]
    exact (hsame hne).2
  · intro path m hnone hm
    by_contra hpath
    rcases (resolve?_eq_some_iff _ path m).mp hm with ⟨chain, hchain, _⟩
    have hchain' := chain?_of_withEntry h now e hfree h' path hpath chain hchain
    rcases Option.map_eq_some_iff.mp hchain' with ⟨t, ht, _⟩
    rw [resolve?, ht] at hnone
    exact absurd hnone (by simp only [Option.map_some, reduceCtorEq, not_false_eq_true])
  · rintro name content rfl
    exact ⟨congrArg (Option.bind · Node.content?) hfound.1,
      congrArg (Option.bind · Node.content?) hfound.2⟩

/-! ### Runs -/

theorem attach?_keeps (fs : FileSystem) (now : Moment) (chain : List String) (child : Node) :
    Node.Keeps fs.root ((fs.attach? now chain child).getD fs).root := by
  rcases fs.attach?_cases now chain child with hnone | ⟨d, changed, hfind, hgains, hsome⟩
  · rw [hnone]
    exact Node.Keeps.refl _
  · rw [hsome]
    exact Node.keeps_put child d changed hgains chain fs.root hfind

theorem create?_keeps (fs : FileSystem) (now : Moment) (e : NewEntry) :
    Node.Keeps fs.root ((fs.create? now e).getD fs).root := by
  rw [create?]
  by_cases hname : Path.isEntryName e.name = true
  · rw [if_pos hname]
    exact fs.attach?_keeps now _ _
  · rw [if_neg hname]
    exact Node.Keeps.refl _

theorem changeDirectory?_root (fs fs' : FileSystem) (path : String)
    (h : fs.changeDirectory? path = some fs') : fs'.root = fs.root := by
  rw [changeDirectory?] at h
  repeat' split at h
  all_goals first
    | exact absurd h (by simp only [reduceCtorEq, not_false_eq_true])
    | (rw [← Option.some.inj h])

/-- No step loses, retypes or overwrites anything. -/
theorem after_keeps (fs : FileSystem) (step : Step) : Node.Keeps fs.root (fs.after step).root := by
  cases step with
  | attach now chain child hchild => exact fs.attach?_keeps now chain child
  | request r =>
      rw [after]
      cases r with
      | changeDirectory path =>
          rw [answer_changeDirectory]
          cases hcd : fs.changeDirectory? path with
          | none => exact Node.Keeps.refl _
          | some fs' =>
              rw [Option.getD_some, fs.changeDirectory?_root fs' path hcd]
              exact Node.Keeps.refl _
      | createDirectory now name =>
          rw [answer_createDirectory]
          exact fs.create?_keeps now (.directory name)
      | createFile now name content =>
          rw [answer_createFile]
          exact fs.create?_keeps now (.file name content)
      -- The others only look.
      | list path => exact Node.Keeps.refl _
      | read path => exact Node.Keeps.refl _
      | resolve path => exact Node.Keeps.refl _

theorem run_keeps (fs : FileSystem) (steps : List Step) :
    Node.Keeps fs.root (fs.run steps).root := by
  induction steps generalizing fs with
  | nil => exact Node.Keeps.refl _
  | cons step rest ih => exact (fs.after_keeps step).trans (ih (fs.after step))

/-- An absolute path to a file leads to the same file after any run. -/
theorem read?_run (hroot : fs.root.isDirectory = true) (steps : List Step) (path content : String)
    (habs : (Path.parse path).isAbsolute = true) (h : fs.read? path = some content) :
    (fs.run steps).read? path = some content := by
  rcases Option.bind_eq_some_iff.mp h with ⟨m, hm, hcontent⟩
  rcases Option.map_eq_some_iff.mp hm with ⟨t, ht, hnode⟩
  have hkeeps := fs.run_keeps steps
  have hroot' : (fs.run steps).root.isDirectory = true := by
    rcases hkeeps [] fs.root rfl with ⟨m', hm', hdir, _⟩
    rw [Option.some.inj hm', hdir, hroot]
  have hway := fs.walk?_isWay path t ht
  rw [walk?, if_pos habs] at ht
  rcases Trail.walk?_alike fs.root (fs.run steps).root hroot hroot' _ (fun chain name c _ hc _ => by
    rcases hkeeps _ c hc with ⟨c', hc', hdir, _⟩
    exact ⟨c', hc', hdir⟩) [] [] t trivial trivial rfl (hroot'.trans hroot.symm) ht with
    ⟨t', ht', hnames⟩
  have hwalk' : (fs.run steps).walk? path = some t' := by
    rw [walk?, if_pos habs]
    exact ht'
  -- The place is the same, and a file stays as it is.
  have hfile : m.isDirectory = false := by
    cases m with
    | file s c => rfl
    | directory s size cs => exact absurd hcontent (by simp only [Node.content?, reduceCtorEq,
        not_false_eq_true])
  rcases hkeeps t.names m (by rw [hway.find?_names, hnode]) with ⟨m', hm', _, hsame⟩
  have hfind' := ((fs.run steps).walk?_isWay path t' hwalk').find?_names
  rw [hnames, hm', Option.some.injEq, hsame hfile] at hfind'
  rw [read?, resolve?_of_walk? _ path t' hwalk', ← hfind', Option.bind_some, hcontent]

/-! ### Main statement -/

/-- An entry is made when its name can be that of an entry and is free in the
    current directory. It is then there and the rest is as it was, and if it is
    not made all is as it was. No run from here loses, retypes or overwrites
    anything. -/
theorem create_exact (fs : FileSystem) (h : fs.Sound) (now : Moment) (e : NewEntry) :
    ((fs.create now e).value.1 = true ↔
        Path.isEntryName e.name = true ∧ fs.currentDirectory.child? e.name = none) ∧
      (∀ fs', (fs.create now e).value = (false, fs') → fs' = fs) ∧
      (∀ fs', (fs.create now e).value = (true, fs') → Created fs now e fs') ∧
      (∀ steps, Node.Keeps fs.root (fs.run steps).root ∧
        ∀ path content, (Path.parse path).isAbsolute = true → fs.read? path = some content →
          (fs.run steps).read? path = some content) := by
  rw [create_value]
  refine ⟨⟨fun hmade => ?_, fun hvalid => ?_⟩, fun fs' hfs' => ?_, fun fs' hfs' => ?_, fun steps =>
    ⟨fs.run_keeps steps, fun path content => read?_run h.placed.root steps path content⟩⟩
  · rcases Option.isSome_iff_exists.mp hmade with ⟨fs', hfs'⟩
    rcases (create?_eq_some_iff h.placed now e fs').mp hfs' with ⟨hname, hfree, _⟩
    exact ⟨hname, hfree⟩
  · rw [(create?_eq_some_iff h.placed now e _).mpr ⟨hvalid.1, hvalid.2, rfl⟩]
    rfl
  · rcases Prod.mk.inj hfs' with ⟨hnone, hsame⟩
    rw [Option.isSome_eq_false_iff, Option.isNone_iff_eq_none] at hnone
    rw [hnone] at hsame
    exact hsame.symm
  · rcases Prod.mk.inj hfs' with ⟨hmade, hchanged⟩
    rcases Option.isSome_iff_exists.mp hmade with ⟨made, hcreate⟩
    rw [hcreate, Option.getD_some] at hchanged
    rcases (create?_eq_some_iff h.placed now e made).mp hcreate with ⟨hname, hfree, hwith⟩
    rw [← hchanged, hwith]
    exact created_withEntry h now e hname hfree

/-- A file in the home directory. The way there is made anew, and what lies
    beside it is read as before. -/
theorem create_exact_atHome :
    atHome.Sound ∧
      ∃ fs', (atHome.create ⟨2024, 3, 6, 0, 0, 0⟩ (.file "notes.txt" "a\nb")).value = (true, fs') ∧
        fs'.read? "notes.txt" = some "a\nb" ∧
        fs'.read? "/home/user/notes.txt" = some "a\nb" ∧
        fs'.chain? "../user/.config//fish/.." = some ["home", "user", ".config"] := by
  have hplaced : atHome.IsPlaced := ⟨by decide, by decide⟩
  have h : atHome.Sound := ⟨standardTree_distinct _ _, hplaced, by decide⟩
  have hexact := create_exact atHome h ⟨2024, 3, 6, 0, 0, 0⟩ (.file "notes.txt" "a\nb")
  have hmade := hexact.1.mpr ⟨by decide, by rfl⟩
  refine ⟨h, _, Prod.ext hmade rfl, ?_⟩
  have hcreated := hexact.2.2.1 _ (Prod.ext hmade rfl)
  have hread := hcreated.read "notes.txt" "a\nb" rfl
  refine ⟨hread.1, hread.2, ?_⟩
  rw [(hcreated.paths "../user/.config//fish/.." _ rfl).1]
  decide

end FileSystem

end SimTerm
