import SimTerm.Proofs.FileSystem.Run

/-!
# A Current Directory that has Vanished

What is left of the current chain when a part of it names no directory any
more, and where the rest of it shows.

Nothing cuts the current chain when directories are taken out of the tree. A
walk goes as far as the chain still leads (`position`), and so does everything
else that looks at the tree. The names behind that (`stale`) stay where they
are. `settled` is the same file system without them, and the question is where
the two differ.

They never differ in an answer or in what becomes of the tree, since all of
that is made from the trail to the current directory, and the trail is the
same (`liveTrail_settled`). They can differ in where one is afterwards, and
`answers_like_settled` says exactly when. There are two such requests:

* The parent, written as a double dot, takes a name off the chain, and that is
  a stale one. The current directory is what it was, unless it was the root
  both times. The same parent, written in any other way, is walked to.
* A new directory under the first stale name brings the vanished directory
  back, and the current directory is then the new one. A new file does not.

## Main definitions

* `position`: The chain that leads to the current directory.
* `stale`: The names of the current chain behind that.
* `settled`: The file system without its stale names.
* `Reveals`: Which requests show stale names.
* `Alike`: A change comes out alike with and without stale names.
* `vanished`: A file system whose current directory was taken away.

## Theorems

* `position_longest`: The position is the longest part of the current chain
  that leads through directories.
* `position_attach`: Where one is after an entry was added.
* `answers_like_settled`: Where a file system differs from the settled one.
* `vanished_reveals`: Both requests that do.
-/

namespace SimTerm

namespace FileSystem

/-- The chain of names that leads to the current directory. -/
def position (fs : FileSystem) : List String := fs.liveTrail.names

/-- The names of the current chain that lead nowhere. -/
def stale (fs : FileSystem) : List String := fs.cwd.drop fs.position.length

/-- The file system with its current chain cut to what still names
    directories. -/
def settled (fs : FileSystem) : FileSystem := { fs with cwd := fs.position }

/-- Which requests show that a file system has stale names. -/
def Reveals (fs : FileSystem) : Request → Prop
  | .changeDirectory path => path = ".." ∧ fs.stale ≠ [] ∧ fs.position ≠ []
  | .createDirectory now name =>
    (fs.createDirectory? now name).isSome = true ∧ fs.stale.head? = some name
  | _ => False

/-- A change to a file system and one to the settled one come out alike: either
    both are made or none is, the tree is the same afterwards, and so is where
    one is unless stale names are shown. -/
structure Alike (fs : FileSystem) (changed changed' : Option FileSystem) (shown : Prop) : Prop where
  /-- Both are made or none is. -/
  isSome : changed.isSome = changed'.isSome
  /-- The tree is the same. -/
  root : (changed.getD fs).root = (changed'.getD fs.settled).root
  /-- One is in the same directory. -/
  position : (changed.getD fs).position = (changed'.getD fs.settled).position ↔ ¬ shown

variable (fs : FileSystem)

/-! ### The current directory -/

theorem position_eq : fs.position = fs.root.liveChain fs.cwd := fs.names_liveTrail

theorem position_append_stale : fs.position ++ fs.stale = fs.cwd := by
  rw [stale, position_eq]
  exact List.prefix_iff_eq_append.mp (fs.root.liveChain_isPrefix fs.cwd)

theorem hasDirectories_position : fs.root.hasDirectories fs.position = true := by
  rw [position_eq]
  exact Node.hasDirectories_liveChain fs.cwd fs.root

/-- The position is the longest part of the current chain that leads through
    directories. -/
theorem position_longest :
    fs.position <+: fs.cwd ∧ fs.root.hasDirectories fs.position = true ∧
      ∀ part, part <+: fs.cwd → fs.root.hasDirectories part = true → part <+: fs.position := by
  refine ⟨?_, fs.hasDirectories_position, fun part hpart hdirs => ?_⟩
  · rw [position_eq]
    exact Node.liveChain_isPrefix fs.cwd fs.root
  · rw [position_eq]
    exact Node.liveChain_greatest fs.cwd part fs.root hpart hdirs

theorem liveTrail_settled : fs.settled.liveTrail = fs.liveTrail :=
  Trail.follow_names fs.liveTrail_isWay fs.hasDirectories_position

theorem position_settled : fs.settled.position = fs.position := by
  rw [position, liveTrail_settled, position]

/-! ### Looking -/

theorem walk?_settled (path : String) : fs.settled.walk? path = fs.walk? path := by
  rw [walk?, walk?, liveTrail_settled]
  rfl

theorem resolve?_settled (path : String) : fs.settled.resolve? path = fs.resolve? path := by
  rw [resolve?, resolve?, walk?_settled]
  rfl

theorem chain?_settled (path : String) : fs.settled.chain? path = fs.chain? path := by
  rw [chain?, chain?, walk?_settled]

theorem list_settled (path : Option String) : fs.settled.list path = fs.list path := by
  have hhere : fs.settled.currentDirectory = fs.currentDirectory := by
    rw [currentDirectory, liveTrail_settled, currentDirectory]
    rfl
  cases path with
  | none => rw [list, list, hhere]
  | some p => rw [list, list, hhere, resolve?_settled]

/-! ### Entering -/

/-- Only the parent and the directory itself, written in the shortest way, are
    entered by way of the current chain. -/
theorem changeDirectory?_settled (path : String) (hdots : path ≠ "..") (hdot : path ≠ ".") :
    fs.settled.changeDirectory? path = fs.changeDirectory? path := by
  have hdots' : ¬ (path == "..") = true := fun h => hdots (beq_iff_eq.mp h)
  have hdot' : ¬ (path == ".") = true := fun h => hdot (beq_iff_eq.mp h)
  rw [changeDirectory?, changeDirectory?, if_neg hdots', if_neg hdots', if_neg hdot', if_neg hdot',
    walk?_settled]
  rfl

theorem changeDirectory?_dots :
    fs.changeDirectory? ".." = some { fs with cwd := fs.cwd.dropLast } := rfl

/-- Where one is after the last name was taken off the current chain: one step
    up, unless the name was stale. -/
theorem position_dropLast :
    position { fs with cwd := fs.cwd.dropLast }
      = if fs.stale = [] then fs.position.dropLast else fs.position := by
  rw [position_eq]
  by_cases hstale : fs.stale = []
  · have hcwd : fs.cwd = fs.position := by
      rw [← fs.position_append_stale, hstale, List.append_nil]
    rw [if_pos hstale, hcwd]
    exact Node.liveChain_eq_self _ _ (Node.hasDirectories_of_prefix fs.position _ fs.root
      (List.dropLast_prefix _) fs.hasDirectories_position)
  · rw [if_neg hstale, position_eq]
    -- What is cut off is behind the live part.
    refine Node.liveChain_of_prefix fs.cwd _ fs.root (List.dropLast_prefix _) ?_
    rw [← position_eq, ← fs.position_append_stale, List.dropLast_append_of_ne_nil hstale]
    exact List.prefix_append _ _

theorem dropLast_eq_self_iff (names : List String) : names.dropLast = names ↔ names = [] := by
  constructor
  · intro h
    have hlen := congrArg List.length h
    rw [List.length_dropLast] at hlen
    exact List.eq_nil_of_length_eq_zero (by omega)
  · rintro rfl
    rfl

/-- The current directory is a directory, if the root is one. -/
theorem isDirectory_currentDirectory : fs.currentDirectory.isDirectory = fs.root.isDirectory := by
  by_cases hroot : fs.root.isDirectory = true
  · -- The settled file system is placed, and is in the same directory.
    have hplaced : fs.settled.IsPlaced := ⟨hroot, fs.hasDirectories_position⟩
    have hdir := hplaced.isDirectory_currentDirectory
    rw [currentDirectory, liveTrail_settled] at hdir
    rw [hroot]
    exact hdir
  · have hnil : fs.liveTrail = [] := by
      by_contra hne
      exact hroot (fs.liveTrail_isWay.isDirectory_root hne)
    rw [currentDirectory, hnil]
    rfl

theorem chain?_dots :
    fs.chain? ".." = if fs.root.isDirectory = true then some fs.position.dropLast else none := by
  have hlive : (fs.liveTrail.node fs.root).isDirectory = fs.root.isDirectory :=
    fs.isDirectory_currentDirectory
  rw [chain?, walk?, show Path.parse ".." = ⟨false, [".."]⟩ by decide, if_neg Bool.false_ne_true,
    Trail.walk?, hlive]
  by_cases hroot : fs.root.isDirectory = true
  · rw [hroot, if_neg (by decide), if_pos (by decide), if_pos rfl, Trail.walk?, Option.map_some,
      Trail.names_tail, position]
  · rw [if_neg hroot, Bool.eq_false_iff.mpr hroot]
    rfl

/-- After the parent was entered by a double dot, one is in the parent, but
    for stale names. -/
theorem position_dots_iff :
    fs.chain? ".." = some (position { fs with cwd := fs.cwd.dropLast }) ↔
      fs.root.isDirectory = true ∧ ¬ fs.Reveals (.changeDirectory "..") := by
  rw [chain?_dots, position_dropLast]
  by_cases hroot : fs.root.isDirectory = true
  · rw [if_pos hroot, Option.some.injEq]
    by_cases hstale : fs.stale = []
    · rw [if_pos hstale]
      exact ⟨fun _ => ⟨hroot, fun h => h.2.1 hstale⟩, fun _ => rfl⟩
    · rw [if_neg hstale, dropLast_eq_self_iff]
      constructor
      · exact fun hposition => ⟨hroot, fun h => h.2.2 hposition⟩
      · intro h
        by_contra hposition
        exact h.2 ⟨rfl, hstale, hposition⟩
  · rw [if_neg hroot]
    constructor
    · exact fun h => absurd h.symm (Option.some_ne_none _)
    · exact fun h => absurd h.1 hroot

/-! ### New entries -/

theorem attach?_settled (now : Moment) (chain : List String) (child : Node) :
    fs.settled.attach? now chain child
      = (fs.attach? now chain child).map (fun fs' => { fs' with cwd := fs.position }) := by
  rw [attach?_eq, attach?_eq, Option.map_map]
  rfl

/-- The stale names lead nowhere from the current directory. -/
theorem liveChain_stale (d : Node) (hd : Node.find? fs.position fs.root = some d) :
    d.liveChain fs.stale = [] := by
  -- The live part of the whole chain is the position and what is live behind it.
  have hchain : fs.root.liveChain fs.cwd = fs.position ++ d.liveChain fs.stale := by
    rw [← Node.liveChain_append fs.position fs.stale fs.root d fs.hasDirectories_position hd,
      position_append_stale]
  rw [← position_eq] at hchain
  exact List.self_eq_append_right.mp hchain

/-- How far the stale names lead when the current directory has gained an
    entry without entries: into it, if it is a directory under the first of
    them. -/
theorem liveChain_stale_of_gains (child d changed : Node) (hgains : Node.Gains child d changed)
    (hd : Node.find? fs.position fs.root = some d) (hempty : child.children = []) :
    changed.liveChain fs.stale
      = if child.isDirectory = true ∧ fs.stale.head? = some child.name then [child.name]
        else [] := by
  have hstale := fs.liveChain_stale d hd
  have hleaf : ∀ names, child.liveChain names = [] := by
    intro names
    cases names with
    | nil => rfl
    | cons name rest =>
        refine Node.liveChain_cons_eq_nil name rest child (fun c hc => ?_)
        rw [Node.child?, hempty] at hc
        exact absurd hc (by simp only [List.find?_nil, reduceCtorEq, not_false_eq_true])
  cases hnames : fs.stale with
  | nil =>
      rw [if_neg (fun h => absurd h.2.symm (Option.some_ne_none _))]
      rfl
  | cons name rest =>
      rw [hnames] at hstale
      by_cases hname : name = child.name
      · have hchild : changed.child? name = some child := by
          rw [hgains.child?, if_pos hname]
        by_cases hdir : child.isDirectory = true
        · rw [Node.liveChain_cons_of_child? name rest changed child hchild hdir, hleaf,
            if_pos ⟨hdir, congrArg some hname⟩, hname]
        · rw [if_neg (fun h => hdir h.1)]
          refine Node.liveChain_cons_eq_nil name rest changed (fun c hc => ?_)
          rw [hchild, Option.some.injEq] at hc
          rw [← hc]
          exact Bool.eq_false_iff.mpr hdir
      · -- Under any other name there is what there was.
        have hchild : changed.child? name = d.child? name := by
          rw [hgains.child?, if_neg hname]
        rw [if_neg (fun h => hname (Option.some.inj h.2)), ← hstale, Node.liveChain,
          Node.liveChain, hchild]

/-- Where one is after an entry was added to the current directory. -/
theorem position_attach (fs' : FileSystem) (now : Moment) (child : Node)
    (hempty : child.children = [])
    (h : fs.attach? now fs.position child = some fs') :
    fs'.position
        = fs.position ++
          (if child.isDirectory = true ∧ fs.stale.head? = some child.name then [child.name]
            else []) ∧
      position { fs' with cwd := fs.position } = fs.position := by
  rcases fs.attach?_cases now fs.position child with hnone | ⟨d, changed, hd, hgains, hsome⟩
  · rw [hnone] at h
    exact absurd h (by simp only [reduceCtorEq, not_false_eq_true])
  · rw [hsome, Option.some.injEq] at h
    -- Past the current directory, the names go on in the one that has gained the entry.
    have hput : ∀ more, Node.liveChain (fs.position ++ more) (Node.put changed fs.position fs.root)
        = fs.position ++ Node.liveChain more changed := fun more =>
      Node.liveChain_put child d changed hgains fs.position more fs.root hd
        fs.hasDirectories_position
    rw [← h]
    constructor
    · refine (position_eq _).trans ?_
      rw [← fs.liveChain_stale_of_gains child d changed hgains hd hempty, ← hput,
        position_append_stale]
    · refine (position_eq _).trans ?_
      have hnil := hput []
      rw [List.append_nil, Node.liveChain, List.append_nil] at hnil
      exact hnil

variable {fs} in
theorem Alike.congr {changed changed' : Option FileSystem} {shown shown' : Prop}
    (h : fs.Alike changed changed' shown) (hshown : shown ↔ shown') :
    fs.Alike changed changed' shown' :=
  ⟨h.isSome, h.root, h.position.trans (not_congr hshown)⟩

theorem alike_none (shown : Prop) (h : ¬ shown) : fs.Alike none none shown :=
  ⟨rfl, rfl, fun _ => h, fun _ => fs.position_settled.symm⟩

/-- Adding an entry without entries to the current directory comes out alike.
    It shows stale names when it is a directory under the first of them. -/
theorem attach?_alike (now : Moment) (child : Node) (hempty : child.children = []) :
    fs.Alike (fs.attach? now fs.position child) (fs.settled.attach? now fs.position child)
      ((fs.attach? now fs.position child).isSome = true ∧ child.isDirectory = true ∧
        fs.stale.head? = some child.name) := by
  rw [attach?_settled]
  cases h : fs.attach? now fs.position child with
  | none => exact fs.alike_none _ (fun hshown => Bool.false_ne_true hshown.1)
  | some fs' =>
      rcases fs.position_attach fs' now child hempty h with ⟨hhere, hsettled⟩
      refine ⟨rfl, rfl, ?_⟩
      rw [Option.map_some, Option.getD_some, Option.getD_some, hhere, hsettled,
        List.append_right_eq_self]
      by_cases hshown : child.isDirectory = true ∧ fs.stale.head? = some child.name
      · rw [if_pos hshown]
        constructor
        · exact fun hnil => absurd hnil (List.cons_ne_nil _ _)
        · exact fun hnot => absurd ⟨rfl, hshown⟩ hnot
      · rw [if_neg hshown]
        exact ⟨fun _ h => hshown h.2, fun _ => rfl⟩

/-! ### All requests -/

theorem changeDirectory?_alike (path : String) :
    fs.Alike (fs.changeDirectory? path) (fs.settled.changeDirectory? path)
      (fs.Reveals (.changeDirectory path)) := by
  by_cases hdots : path = ".."
  -- The settled file system has no stale name to take off.
  · rw [hdots, changeDirectory?_dots, changeDirectory?_dots]
    refine ⟨rfl, rfl, ?_⟩
    have hsettled : fs.settled.stale = [] := by
      rw [stale, position_settled]
      exact List.drop_length
    rw [Option.getD_some, Option.getD_some, position_dropLast, position_dropLast,
      if_pos hsettled, position_settled]
    by_cases hstale : fs.stale = []
    · rw [if_pos hstale]
      exact ⟨fun _ hshown => hshown.2.1 hstale, fun _ => rfl⟩
    · rw [if_neg hstale, eq_comm, dropLast_eq_self_iff]
      constructor
      · exact fun hposition hshown => hshown.2.2 hposition
      · intro hnot
        by_contra hposition
        exact hnot ⟨rfl, hstale, hposition⟩
  · have hnot : ¬ fs.Reveals (.changeDirectory path) := fun hshown => hdots hshown.1
    by_cases hdot : path = "."
    · rw [hdot] at hnot ⊢
      exact ⟨rfl, rfl, fun _ => hnot, fun _ => fs.position_settled.symm⟩
    · rw [fs.changeDirectory?_settled path hdots hdot]
      cases fs.changeDirectory? path with
      | none => exact fs.alike_none _ hnot
      | some fs' => exact ⟨rfl, rfl, fun _ => hnot, fun _ => rfl⟩

/-- Neither is anything added under a name that cannot be that of an entry. -/
theorem create_alike (now : Moment) (name : String) (child : Node) (hempty : child.children = []) :
    fs.Alike
      (if Path.isEntryName name = true then fs.attach? now fs.liveTrail.names child else none)
      (if Path.isEntryName name = true then
        fs.settled.attach? now fs.settled.liveTrail.names child else none)
      ((if Path.isEntryName name = true then
          fs.attach? now fs.liveTrail.names child else none).isSome = true ∧
        child.isDirectory = true ∧ fs.stale.head? = some child.name) := by
  rw [liveTrail_settled]
  by_cases hname : Path.isEntryName name = true
  · rw [if_pos hname, if_pos hname]
    exact fs.attach?_alike now child hempty
  · rw [if_neg hname, if_neg hname]
    exact fs.alike_none _ (fun hshown => Bool.false_ne_true hshown.1)

theorem createDirectory?_alike (now : Moment) (name : String) :
    fs.Alike (fs.createDirectory? now name) (fs.settled.createDirectory? now name)
      (fs.Reveals (.createDirectory now name)) := by
  refine (fs.create_alike now name (newDirectory fs.settings now name []) rfl).congr ?_
  exact and_congr_right (fun _ => ⟨fun h => h.2, fun h => ⟨rfl, h⟩⟩)

theorem createFile?_alike (now : Moment) (name content : String) :
    fs.Alike (fs.createFile? now name content) (fs.settled.createFile? now name content)
      (fs.Reveals (.createFile now name content)) := by
  refine (fs.create_alike now name (newFile fs.settings now name content) rfl).congr ?_
  -- A file brings no directory back.
  exact ⟨fun h => absurd h.2.1 Bool.false_ne_true, False.elim⟩

/-- The current chain of the settled file system is the longest part of the
    current chain that leads through directories. The two answer alike and make
    the same of the tree. Where one is afterwards is the same, too, but for the
    two requests that show stale names. In particular a double dot enters what
    it names exactly when it shows none. -/
theorem answers_like_settled (fs : FileSystem) :
    (fs.settled.cwd <+: fs.cwd ∧ fs.root.hasDirectories fs.settled.cwd = true ∧
        ∀ part, part <+: fs.cwd → fs.root.hasDirectories part = true →
          part <+: fs.settled.cwd) ∧
      (∀ r, (fs.answer r).1 = (fs.settled.answer r).1 ∧
        (fs.answer r).2.root = (fs.settled.answer r).2.root ∧
        ((fs.answer r).2.position = (fs.settled.answer r).2.position ↔ ¬ fs.Reveals r)) ∧
      (fs.chain? ".." = some (fs.answer (.changeDirectory "..")).2.position ↔
        fs.root.isDirectory = true ∧ ¬ fs.Reveals (.changeDirectory "..")) := by
  have hlook : fs.position = fs.settled.position ↔ ¬ False :=
    ⟨fun _ => not_false, fun _ => fs.position_settled.symm⟩
  refine ⟨fs.position_longest, ?_, ?_⟩
  · intro r
    cases r with
    | changeDirectory path =>
        have halike := fs.changeDirectory?_alike path
        rw [answer_changeDirectory, answer_changeDirectory, halike.isSome]
        exact ⟨rfl, halike.root, halike.position⟩
    | list path => exact ⟨congrArg Reply.nodes (fs.list_settled path).symm, rfl, hlook⟩
    | read path =>
        rw [answer, answer, read?, read?, resolve?_settled]
        exact ⟨rfl, rfl, hlook⟩
    | resolve path =>
        rw [answer, answer, resolve?_settled, chain?_settled]
        exact ⟨rfl, rfl, hlook⟩
    | createDirectory now name =>
        have halike := fs.createDirectory?_alike now name
        rw [answer_createDirectory, answer_createDirectory, halike.isSome]
        exact ⟨rfl, halike.root, halike.position⟩
    | createFile now name content =>
        have halike := fs.createFile?_alike now name content
        rw [answer_createFile, answer_createFile, halike.isSome]
        exact ⟨rfl, halike.root, halike.position⟩
  · rw [answer_changeDirectory, changeDirectory?_dots, Option.getD_some]
    exact fs.position_dots_iff

/-- A file system in which a directory was entered and then taken away. -/
def vanished : FileSystem :=
  ((bare {} ⟨2024, 3, 5, 6, 7, 8⟩).run [
    .request (.createDirectory ⟨2024, 3, 5, 6, 7, 8⟩ "a"),
    .request (.changeDirectory "a"),
    .request (.createDirectory ⟨2024, 3, 5, 6, 7, 8⟩ "b"),
    .request (.changeDirectory "b")]).detach ["a"] "b"

/-- The parent of the directory that one is in is the root. A double dot leads
    nowhere instead, and making the directory again leads into it. Without the
    stale name neither is so. -/
theorem vanished_reveals :
    vanished.position = ["a"] ∧ vanished.stale = ["b"] ∧ vanished.chain? ".." = some [] ∧
      (vanished.answer (.changeDirectory "..")).2.position = ["a"] ∧
      (vanished.settled.answer (.changeDirectory "..")).2.position = [] ∧
      (vanished.answer (.createDirectory ⟨2024, 3, 5, 6, 7, 8⟩ "b")).2.position = ["a", "b"] ∧
      (vanished.settled.answer (.createDirectory ⟨2024, 3, 5, 6, 7, 8⟩ "b")).2.position
        = ["a"] := by
  decide

end FileSystem

end SimTerm
