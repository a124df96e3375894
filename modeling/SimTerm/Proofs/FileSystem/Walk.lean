import SimTerm.Proofs.FileSystem.Trail
import SimTerm.Proofs.Path

/-!
# Walks from the Current Directory

What entering a directory has to do with looking one up.

Looking a path up is a walk, and so is entering a directory but for three
paths. The root, the parent and the directory itself, written in the shortest
way, are entered without a look at the tree, by a change of the current chain.
As long as the current directory is there this makes no difference:
`changeDirectory?_eq` says that entering is a walk to a directory for every
path, and from there on the three paths are none of a kind. Where a part of
the current chain is gone they do make a difference, and that is looked at in
`Proofs.FileSystem.Vanished`.

Entering stores the names of the walk and forgets its nodes. The way is found
again from the names (`liveTrail_entered`), so a walk that starts in the
directory that was entered goes on where the walk to it ended. A path that is
put together from two is walked in two parts (`walk?_append`). These two facts
are all there is to `walk_composes`, and the first of them with the reading of
written names is all there is to `changeDirectory_resolves`.

## Main definitions

* `IsPlaced`: The current directory is there.
* `entered`: The file system after the end of a trail was entered.
* `atHome`: The standard tree, seen from the home directory.

## Theorems

* `changeDirectory?_eq`: Entering a directory is a walk to it.
* `liveTrail_entered`: The way to a directory is found again from within.
* `walk?_append`: A path that is put together is walked in two parts.
* `walk?_absoluteText`: Names that are written as an absolute path are walked.
* `walk_composes`: Paths can be put together.
* `changeDirectory_resolves`: What can be entered is what is found to be a
  directory, and it is entered.
-/

namespace SimTerm

namespace FileSystem

/-- The current directory is there: the root is a directory, and the current
    chain leads from it through directories. -/
structure IsPlaced (fs : FileSystem) : Prop where
  /-- The root is a directory. -/
  root : fs.root.isDirectory = true
  /-- Each name of the current chain names a directory. -/
  cwd : fs.root.hasDirectories fs.cwd = true

/-- The file system after the end of a trail was entered. -/
def entered (fs : FileSystem) (t : Trail) : FileSystem := { fs with cwd := t.names }

/-- The standard tree, seen from the home directory. -/
def atHome : FileSystem :=
  { standard {} ⟨2024, 3, 5, 6, 7, 8⟩ with cwd := ["home", "user"] }

variable (fs : FileSystem)

/-! ### Walks -/

theorem liveTrail_isWay : Trail.IsWay fs.root fs.liveTrail :=
  Trail.follow_isWay fs.root [] fs.cwd trivial

theorem names_liveTrail : fs.liveTrail.names = fs.root.liveChain fs.cwd := by
  rw [liveTrail, Trail.names_follow, Trail.names_nil, List.nil_append]
  rfl

/-- What holds at the root and in the current directory, and is kept by a
    step back and by a step to a child, holds of where a path leads. -/
theorem walk?_invariant (P : Trail → Prop) (path : String) (t : Trail)
    (hroot : P []) (hlive : P fs.liveTrail) (hback : ∀ t, P t → P t.tail)
    (hstep : ∀ t name c, name ∈ (Path.parse path).components → name ≠ ".." →
      (t.node fs.root).child? name = some c → P t → P ((name, c) :: t))
    (h : fs.walk? path = some t) : P t := by
  refine Trail.walk?_invariant fs.root P (Path.parse path).components hback hstep _ t ?_ h
  by_cases habs : (Path.parse path).isAbsolute = true
  · rw [if_pos habs]
    exact hroot
  · rw [if_neg habs]
    exact hlive

theorem walk?_isWay (path : String) (t : Trail) (h : fs.walk? path = some t) :
    Trail.IsWay fs.root t :=
  fs.walk?_invariant (Trail.IsWay fs.root) path t trivial fs.liveTrail_isWay
    (fun _ hway => hway.tail) (fun _ _ _ _ _ hc hway => ⟨hc, hway⟩) h

/-- A walk leads through names of entries, if the current chain does. -/
theorem walk?_isEntryName (path : String) (t : Trail)
    (hcwd : ∀ name ∈ fs.cwd, Path.isEntryName name = true) (h : fs.walk? path = some t) :
    ∀ name ∈ t.names, Path.isEntryName name = true := by
  refine fs.walk?_invariant (fun t => ∀ name ∈ t.names, Path.isEntryName name = true) path t
    ?_ ?_ ?_ ?_ h
  -- At the root, in the current directory, after a step back, after a step to a child.
  · exact fun name hname => absurd hname List.not_mem_nil
  · intro name hname
    rw [names_liveTrail] at hname
    exact hcwd name ((fs.root.liveChain_isPrefix fs.cwd).subset hname)
  · intro t ht name hname
    rw [Trail.names_tail] at hname
    exact ht name (List.dropLast_subset _ hname)
  · intro t other c hother hdots _ ht name hname
    rw [Trail.names_cons, List.mem_append, List.mem_singleton] at hname
    rcases hname with hname | hname
    · exact ht name hname
    · rw [hname]
      exact Path.isEntryName_of_mem_parse path other hother hdots

theorem resolve?_of_walk? (path : String) (t : Trail) (h : fs.walk? path = some t) :
    fs.resolve? path = some (t.node fs.root) := by
  rw [resolve?, h]
  rfl

theorem chain?_of_walk? (path : String) (t : Trail) (h : fs.walk? path = some t) :
    fs.chain? path = some t.names := by
  rw [chain?, h]
  rfl

theorem walk?_append (p q : String) (hp : p ≠ "") :
    fs.walk? (p ++ "/" ++ q)
      = (fs.walk? p).bind (fun t => Trail.walk? fs.root t (Path.parse q).components) := by
  rw [walk?, walk?, Path.parse_append p q hp]
  exact Trail.walk?_append fs.root _ _ _

/-- Names of entries that lead somewhere are walked when they are written as
    an absolute path. -/
theorem walk?_absoluteText (t : Trail) (ht : Trail.IsWay fs.root t)
    (hnames : ∀ name ∈ t.names, Path.isEntryName name = true) :
    fs.walk? (Path.absoluteText t.names) = some t := by
  have hdots : ".." ∉ t.names := fun h => absurd (hnames ".." h) (by decide)
  rw [walk?, Path.parse_absoluteText_of_isEntryName t.names hnames]
  exact Trail.walk?_names ht hdots

/-! ### Entering -/

theorem settle_value (changed : Option FileSystem) (done refused : List Event) :
    (fs.settle changed done refused).value = (changed.isSome, changed.getD fs) := by
  cases changed <;> rfl

variable {fs}

theorem IsPlaced.names_liveTrail (h : fs.IsPlaced) : fs.liveTrail.names = fs.cwd := by
  rw [FileSystem.names_liveTrail, Node.liveChain_eq_self fs.cwd fs.root h.cwd]

theorem IsPlaced.isDirectory_currentDirectory (h : fs.IsPlaced) :
    fs.currentDirectory.isDirectory = true := by
  have hfind := fs.liveTrail_isWay.find?_names
  rw [h.names_liveTrail] at hfind
  rcases (Node.hasDirectories_iff fs.cwd fs.root h.root).mp h.cwd with ⟨d, hd, hdir⟩
  rw [hd, Option.some.injEq] at hfind
  rw [currentDirectory, ← hfind]
  exact hdir

theorem IsPlaced.entered_liveTrail (h : fs.IsPlaced) : fs.entered fs.liveTrail = fs := by
  rw [entered, h.names_liveTrail]

/-- The way to a directory is found again after it was entered. -/
theorem liveTrail_entered (t : Trail) (hroot : fs.root.isDirectory = true)
    (ht : Trail.IsWay fs.root t) (hdir : (t.node fs.root).isDirectory = true) :
    (fs.entered t).liveTrail = t :=
  Trail.follow_names ht
    ((Node.hasDirectories_iff t.names fs.root hroot).mpr ⟨_, ht.find?_names, hdir⟩)

theorem isPlaced_entered (t : Trail) (hroot : fs.root.isDirectory = true)
    (ht : Trail.IsWay fs.root t) (hdir : (t.node fs.root).isDirectory = true) :
    (fs.entered t).IsPlaced :=
  ⟨hroot, (Node.hasDirectories_iff t.names fs.root hroot).mpr ⟨_, ht.find?_names, hdir⟩⟩

/-- Entering a directory is a walk to it, also for the paths that are entered
    without one. -/
theorem changeDirectory?_eq (h : fs.IsPlaced) (path : String) :
    fs.changeDirectory? path
      = (fs.walk? path).bind (fun t =>
          if (t.node fs.root).isDirectory = true then some (fs.entered t) else none) := by
  rw [changeDirectory?]
  -- The three paths that are entered without a walk are walked here, one after the other.
  by_cases hslash : (path == "/") = true
  · have hwalk : fs.walk? "/" = some [] := rfl
    rw [if_pos hslash, beq_iff_eq.mp hslash, hwalk, Option.bind_some,
      if_pos (show (Trail.node fs.root []).isDirectory = true from h.root)]
    rfl
  · rw [if_neg hslash]
    by_cases hdots : (path == "..") = true
    · have hlive : (fs.liveTrail.node fs.root).isDirectory = true :=
        h.isDirectory_currentDirectory
      have hwalk : fs.walk? ".." = some fs.liveTrail.tail := by
        rw [walk?, show Path.parse ".." = ⟨false, [".."]⟩ by decide, if_neg Bool.false_ne_true,
          Trail.walk?, hlive]
        rfl
      rw [if_pos hdots, beq_iff_eq.mp hdots, hwalk, Option.bind_some,
        if_pos (fs.liveTrail_isWay.isDirectory_tail h.root), entered, Trail.names_tail,
        h.names_liveTrail]
    · rw [if_neg hdots]
      by_cases hdot : (path == ".") = true
      · have hwalk : fs.walk? "." = some fs.liveTrail := by
          rw [walk?, show Path.parse "." = ⟨false, []⟩ by decide]
          rfl
        rw [if_pos hdot, beq_iff_eq.mp hdot, hwalk, Option.bind_some,
          if_pos (show (fs.liveTrail.node fs.root).isDirectory = true from
            h.isDirectory_currentDirectory), h.entered_liveTrail]
      · rw [if_neg hdot]
        cases fs.walk? path <;> rfl

/-- What entering a path comes to: the walk to it ended in a directory, which
    is then the current one, or it did not. -/
theorem changeDirectory?_cases (h : fs.IsPlaced) (path : String) :
    (∃ t, fs.walk? path = some t ∧ (t.node fs.root).isDirectory = true ∧
        fs.changeDirectory? path = some (fs.entered t) ∧ (fs.entered t).liveTrail = t ∧
        (fs.entered t).IsPlaced) ∨
      ((fs.resolve? path).any Node.isDirectory = false ∧ fs.changeDirectory? path = none) := by
  rw [changeDirectory?_eq h]
  cases hwalk : fs.walk? path with
  | none =>
      right
      rw [resolve?, hwalk]
      exact ⟨rfl, rfl⟩
  | some t =>
      have hway := fs.walk?_isWay path t hwalk
      by_cases hdir : (t.node fs.root).isDirectory = true
      · left
        refine ⟨t, rfl, hdir, ?_, liveTrail_entered t h.root hway hdir,
          isPlaced_entered t h.root hway hdir⟩
        rw [Option.bind_some, if_pos hdir]
      · right
        rw [resolve?, hwalk, Option.bind_some, if_neg hdir]
        exact ⟨Bool.eq_false_iff.mpr hdir, rfl⟩

theorem walk?_entered (t : Trail) (q : String) (hlive : (fs.entered t).liveTrail = t)
    (hq : q.toList.head? ≠ some Path.separator) :
    (fs.entered t).walk? q = Trail.walk? fs.root t (Path.parse q).components := by
  rw [walk?, Path.isAbsolute_eq_false q hq, if_neg Bool.false_ne_true, hlive]
  rfl

/-! ### Main statements -/

/-- Paths can be put together. Where the first one leads to a directory, the
    second one leads on from there, for looking up and for entering alike.
    Where it leads nowhere, so does the whole path, and a file is only reached
    when nothing follows it. -/
theorem walk_composes (fs : FileSystem) (h : fs.IsPlaced) (p q : String) (hp : p ≠ "")
    (hq : q.toList.head? ≠ some Path.separator) :
    (∀ fs', fs.changeDirectory? p = some fs' →
      fs'.resolve? q = fs.resolve? (p ++ "/" ++ q) ∧
        fs'.chain? q = fs.chain? (p ++ "/" ++ q) ∧
        fs'.changeDirectory? q = fs.changeDirectory? (p ++ "/" ++ q)) ∧
      (fs.resolve? p = none → fs.resolve? (p ++ "/" ++ q) = none) ∧
      (∀ f, fs.resolve? p = some f → f.isDirectory = false →
        ((Path.parse q).components ≠ [] → fs.resolve? (p ++ "/" ++ q) = none) ∧
          ((Path.parse q).components = [] →
            fs.resolve? (p ++ "/" ++ q) = some f ∧
              fs.chain? (p ++ "/" ++ q) = fs.chain? p)) := by
  have hjoin := fs.walk?_append p q hp
  refine ⟨fun fs' hfs' => ?_, fun hnone => ?_, fun f hf hfile => ?_⟩
  · rcases changeDirectory?_cases h p with ⟨t, hwalk, -, hcd, hlive, hplaced⟩ | ⟨-, hcd⟩
    · rw [hcd, Option.some.injEq] at hfs'
      rw [← hfs']
      -- Both sides are one walk in the same tree.
      have hwalk' : (fs.entered t).walk? q = fs.walk? (p ++ "/" ++ q) := by
        rw [walk?_entered t q hlive hq, hjoin, hwalk, Option.bind_some]
      refine ⟨?_, ?_, ?_⟩
      · rw [resolve?, resolve?, hwalk']
        rfl
      · rw [chain?, chain?, hwalk']
      · rw [changeDirectory?_eq hplaced, changeDirectory?_eq h, hwalk']
        rfl
    · rw [hcd] at hfs'
      exact absurd hfs' (by simp only [reduceCtorEq, not_false_eq_true])
  · rw [resolve?, Option.map_eq_none_iff] at hnone
    rw [resolve?, hjoin, hnone]
    rfl
  · rw [resolve?] at hf
    rcases Option.map_eq_some_iff.mp hf with ⟨t, hwalk, hnode⟩
    rw [← hnode] at hfile
    rw [resolve?, chain?, chain?, hjoin, hwalk, Option.bind_some]
    -- From a file there is no way on, not even back.
    constructor
    · intro hne
      rw [Trail.walk?_of_file fs.root t _ hne hfile]
      rfl
    · intro hnil
      rw [hnil, ← hnode]
      exact ⟨rfl, rfl⟩

/-- From the home directory, by way of a path with all kinds of detours. -/
theorem walk_composes_atHome :
    atHome.IsPlaced ∧ "./documents//.." ≠ "" ∧
      "../user/.config".toList.head? ≠ some Path.separator ∧
      ∃ fs', atHome.changeDirectory? "./documents//.." = some fs' ∧
        fs'.chain? "../user/.config" = atHome.chain? "./documents//../../user/.config" ∧
        atHome.chain? "./documents//../../user/.config" = some ["home", "user", ".config"] := by
  have h : atHome.IsPlaced := ⟨by decide, by decide⟩
  have hq : "../user/.config".toList.head? ≠ some Path.separator := by decide
  refine ⟨h, by decide, hq, _, rfl, ?_, by decide⟩
  exact ((walk_composes atHome h "./documents//.." "../user/.config" (by decide) hq).1 _ rfl).2.1

/-- A directory can be entered when looking the path up finds one. It is then
    the current directory, and the current chain, written as a path, leads to
    it. Otherwise nothing has changed. -/
theorem changeDirectory_resolves (fs : FileSystem) (h : fs.IsPlaced)
    (hnames : ∀ name ∈ fs.cwd, Path.isEntryName name = true) (path : String) :
    ((fs.changeDirectory path).value.1 = true ↔
        ∃ d, fs.resolve? path = some d ∧ d.isDirectory = true) ∧
      (∀ fs', (fs.changeDirectory path).value = (true, fs') →
        fs'.root = fs.root ∧
          some fs'.currentDirectory = fs.resolve? path ∧
          some fs'.liveTrail.names = fs.chain? path ∧
          fs'.resolve? fs'.cwdText = fs.resolve? path ∧
          fs'.chain? fs'.cwdText = fs.chain? path) ∧
      (∀ fs', (fs.changeDirectory path).value = (false, fs') → fs' = fs) := by
  rw [changeDirectory, settle_value]
  rcases changeDirectory?_cases h path with ⟨t, hwalk, hdir, hcd, hlive, hplaced⟩ | ⟨hfile, hcd⟩
  · have hresolve := fs.resolve?_of_walk? path t hwalk
    -- The names are those of the way, so they are walked as they are written.
    have htext : (fs.entered t).walk? (fs.entered t).cwdText = some t :=
      (fs.entered t).walk?_absoluteText t (fs.walk?_isWay path t hwalk)
        (fs.walk?_isEntryName path t hnames hwalk)
    rw [hcd]
    refine ⟨⟨fun _ => ⟨_, hresolve, hdir⟩, fun _ => rfl⟩, fun fs' hfs' => ?_, fun fs' hfs' => ?_⟩
    · have hentered : fs.entered t = fs' := (Prod.mk.inj hfs').2
      rw [← hentered, currentDirectory, hlive, hresolve, fs.chain?_of_walk? path t hwalk,
        resolve?_of_walk? _ _ t htext, chain?_of_walk? _ _ t htext]
      exact ⟨rfl, rfl, rfl, rfl, rfl⟩
    · exact absurd (Prod.mk.inj hfs').1.symm Bool.false_ne_true
  · rw [hcd]
    refine ⟨⟨fun htrue => absurd htrue Bool.false_ne_true, fun hd => ?_⟩, fun fs' hfs' => ?_,
      fun fs' hfs' => ?_⟩
    · rcases hd with ⟨d, hd, hdir⟩
      rw [hd, Option.any_some, hdir] at hfile
      exact absurd hfile.symm Bool.false_ne_true
    · exact absurd (Prod.mk.inj hfs').1 Bool.false_ne_true
    · exact (Prod.mk.inj hfs').2.symm

/-- The parent of the home directory, in a way that is not the shortest. -/
theorem changeDirectory_resolves_atHome :
    atHome.IsPlaced ∧ (∀ name ∈ atHome.cwd, Path.isEntryName name = true) ∧
      (atHome.changeDirectory "./..").value.1 = true ∧
      atHome.chain? "./.." = some ["home"] := by
  have h : atHome.IsPlaced := ⟨by decide, by decide⟩
  have hnames : ∀ name ∈ atHome.cwd, Path.isEntryName name = true := by decide
  refine ⟨h, hnames, (changeDirectory_resolves atHome h hnames "./..").1.mpr ?_, by decide⟩
  exact ⟨_, rfl, rfl⟩

end FileSystem

end SimTerm
