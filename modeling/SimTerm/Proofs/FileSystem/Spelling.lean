import SimTerm.Proofs.FileSystem.Walk

/-!
# How a Path Is Spelled

What of a walk can be told from the path alone.

A walk looks for nodes, and whether it gets anywhere is for the tree to say.
Where it gets to is not. A step back takes the last name off the trail and a
step to a child puts its own name there, so the names on the trail change as
the components say, whatever nodes the names stand for (`names_walk?`). Reading
a path without a tree gives its normal form, and that is where a walk ends if
it ends anywhere (`names_of_walk?`). The three paths that are entered without a
walk change the current chain in the same way, so nothing has to be assumed
about the root here.

A path can be spelled in many ways, and only what is read from it counts for a
walk. For entering it that is less clear: a path that is written in its
shortest way may be one of the three, and other spellings of it are not. But
entering is a walk where the current directory is there (`changeDirectory?_eq`),
and so the shortest spelling is as good as any.

## Main definitions

* `Path.advance`: A chain of names after one more component.
* `Path.normal`: The chain of names that a path says it leads to.

## Theorems

* `Trail.names_walk?`: The names on a trail change as the components say.
* `names_of_walk?`: A walk ends at the normal form of its path.
* `cwd_of_changeDirectory?`: So does entering a directory.
* `leads_to_normal`: The tree decides whether a path leads anywhere, and not
  where.
* `spelled_alike`: A path that is read and written again is the same path.
-/

namespace SimTerm

namespace Path

/-- A chain of names after one more component. A double dot takes the last name
    off, if there is one, and any other component comes to the end. -/
def advance (names : List String) (component : String) : List String :=
  if component == ".." then names.dropLast else names ++ [component]

/-- The chain of names that a path leads to from another chain, as far as the
    path can say. -/
def normal (cwd : List String) (path : String) : List String :=
  (parse path).components.foldl advance (if (parse path).isAbsolute then [] else cwd)

end Path

/-- The names on a trail change with a walk as the components say. -/
theorem Trail.names_walk? (root : Node) (t u : Trail) (components : List String)
    (h : walk? root t components = some u) :
    u.names = components.foldl Path.advance t.names := by
  induction components generalizing t with
  | nil =>
      rw [walk?, Option.some.injEq] at h
      rw [h, List.foldl_nil]
  | cons name rest ih =>
      rw [walk?] at h
      rw [List.foldl_cons, Path.advance]
      by_cases hdir : (!(t.node root).isDirectory) = true
      · rw [if_pos hdir] at h
        exact absurd h (by simp only [reduceCtorEq, not_false_eq_true])
      · rw [if_neg hdir] at h
        by_cases hdots : (name == "..") = true
        · rw [if_pos hdots] at h ⊢
          rw [ih t.tail h, names_tail]
        · rw [if_neg hdots] at h ⊢
          cases hc : (t.node root).child? name with
          | none =>
              rw [hc] at h
              exact absurd h (by simp only [reduceCtorEq, not_false_eq_true])
          | some c =>
              rw [hc] at h
              rw [ih ((name, c) :: t) h, names_cons]

namespace FileSystem

variable (fs : FileSystem)

/-! ### Where a path leads -/

/-- A walk ends at the normal form of its path. -/
theorem names_of_walk? (hcwd : fs.root.hasDirectories fs.cwd = true) (path : String) (t : Trail)
    (h : fs.walk? path = some t) : t.names = Path.normal fs.cwd path := by
  have hlive : fs.liveTrail.names = fs.cwd := by
    rw [names_liveTrail, Node.liveChain_eq_self fs.cwd fs.root hcwd]
  rw [Trail.names_walk? fs.root _ t _ h, Path.normal]
  by_cases habs : (Path.parse path).isAbsolute = true
  · rw [if_pos habs, if_pos habs, Trail.names_nil]
  · rw [if_neg habs, if_neg habs, hlive]

/-- A directory that is entered has the normal form of its path for its chain,
    also if it is entered without a walk. -/
theorem cwd_of_changeDirectory? (hcwd : fs.root.hasDirectories fs.cwd = true) (path : String)
    (fs' : FileSystem) (h : fs.changeDirectory? path = some fs') :
    fs'.cwd = Path.normal fs.cwd path := by
  rw [changeDirectory?] at h
  by_cases hslash : (path == "/") = true
  · rw [if_pos hslash, Option.some.injEq] at h
    rw [← h, beq_iff_eq.mp hslash]
    rfl
  rw [if_neg hslash] at h
  by_cases hdots : (path == "..") = true
  · rw [if_pos hdots, Option.some.injEq] at h
    rw [← h, beq_iff_eq.mp hdots]
    rfl
  rw [if_neg hdots] at h
  by_cases hdot : (path == ".") = true
  · rw [if_pos hdot, Option.some.injEq] at h
    rw [← h, beq_iff_eq.mp hdot]
    rfl
  rw [if_neg hdot] at h
  -- Any other path is entered by a walk.
  cases hwalk : fs.walk? path with
  | none =>
      rw [hwalk] at h
      exact absurd h (by simp only [reduceCtorEq, not_false_eq_true])
  | some t =>
      rw [hwalk] at h
      dsimp only at h
      by_cases hdir : (t.node fs.root).isDirectory = true
      · rw [if_pos hdir, Option.some.injEq] at h
        rw [← h]
        exact fs.names_of_walk? hcwd path t hwalk
      · rw [if_neg hdir] at h
        exact absurd h (by simp only [reduceCtorEq, not_false_eq_true])

/-- Whether a path leads anywhere is for the tree to say, and where it leads is
    not. A directory that is entered has the normal form of the path for its
    current chain. A node that is found stands at the end of the normal form,
    and if the names of entries are all that the current chain has, the normal
    form written as a path finds the same node. -/
theorem leads_to_normal (fs : FileSystem) (hcwd : fs.root.hasDirectories fs.cwd = true)
    (path : String) :
    (∀ fs', (fs.changeDirectory path).value = (true, fs') →
        fs'.cwd = Path.normal fs.cwd path) ∧
      ∀ n, fs.resolve? path = some n →
        Node.find? (Path.normal fs.cwd path) fs.root = some n ∧
          ((∀ name ∈ fs.cwd, Path.isEntryName name = true) →
            fs.resolve? (Path.absoluteText (Path.normal fs.cwd path)) = some n) := by
  constructor
  · intro fs' hfs'
    rw [changeDirectory, settle_value, Prod.mk.injEq] at hfs'
    rcases Option.isSome_iff_exists.mp hfs'.1 with ⟨entered, hentered⟩
    rw [hentered, Option.getD_some] at hfs'
    rw [← hfs'.2]
    exact fs.cwd_of_changeDirectory? hcwd path entered hentered
  · intro n hn
    rw [resolve?] at hn
    rcases Option.map_eq_some_iff.mp hn with ⟨t, hwalk, hnode⟩
    have hway := fs.walk?_isWay path t hwalk
    rw [← fs.names_of_walk? hcwd path t hwalk, ← hnode]
    refine ⟨hway.find?_names, fun hnames => ?_⟩
    refine fs.resolve?_of_walk? _ t (fs.walk?_absoluteText t hway ?_)
    exact fs.walk?_isEntryName path t hnames hwalk

/-- From the home directory, up beyond the root and down again. -/
theorem leads_to_normal_atHome :
    atHome.root.hasDirectories atHome.cwd = true ∧
      Path.normal atHome.cwd "../../..//usr/./bin/../../home" = ["home"] ∧
      (∃ fs', (atHome.changeDirectory "../../..//usr/./bin/../../home").value = (true, fs') ∧
        fs'.cwd = ["home"]) ∧
      ∃ n, atHome.resolve? "../user/./../user/.bashrc" = some n ∧
        (∀ name ∈ atHome.cwd, Path.isEntryName name = true) ∧
        atHome.resolve? "/home/user/.bashrc" = some n := by
  have hcwd : atHome.root.hasDirectories atHome.cwd = true := by decide
  have hnames : ∀ name ∈ atHome.cwd, Path.isEntryName name = true := by decide
  have hnormal : Path.normal atHome.cwd "../../..//usr/./bin/../../home" = ["home"] := by decide
  refine ⟨hcwd, hnormal, ⟨_, rfl, ?_⟩, ⟨_, rfl, hnames, ?_⟩⟩
  · exact (leads_to_normal atHome hcwd "../../..//usr/./bin/../../home").1 _ rfl
  · exact ((leads_to_normal atHome hcwd "../user/./../user/.bashrc").2 _ rfl).2 hnames

/-! ### Other spellings -/

/-- What is read from a path is all that counts for a walk. -/
theorem walk?_text_parse (path : String) :
    fs.walk? (Path.text (Path.parse path)) = fs.walk? path := by
  rw [walk?, walk?, Path.parse_text_parse]

/-- Components that are written as an absolute path are read back. What is read
    from any path are such components, and when it is written again, it is read
    as the same path, it finds the same node, and where the current directory is
    there, entering it comes to the same. -/
theorem spelled_alike :
    (∀ names : List String,
        (∀ name ∈ names, name ≠ "" ∧ name ≠ "." ∧ Path.separator ∉ name.toList) →
          Path.parse (Path.absoluteText names) = ⟨true, names⟩) ∧
      ∀ path : String,
        (∀ name ∈ (Path.parse path).components,
          name ≠ "" ∧ name ≠ "." ∧ Path.separator ∉ name.toList) ∧
        Path.parse (Path.text (Path.parse path)) = Path.parse path ∧
        ∀ fs : FileSystem,
          fs.resolve? (Path.text (Path.parse path)) = fs.resolve? path ∧
            (fs.IsPlaced →
              (fs.changeDirectory (Path.text (Path.parse path))).value =
                (fs.changeDirectory path).value) := by
  have hcomponent : ∀ name, (Path.isComponent name = true ∧ Path.separator ∉ name.toList) ↔
      (name ≠ "" ∧ name ≠ "." ∧ Path.separator ∉ name.toList) := fun name => by
    simp only [Path.isComponent, Bool.and_eq_true, bne_iff_ne, and_assoc]
  refine ⟨fun names hnames => ?_, fun path => ⟨fun name hname => ?_, ?_, fun fs => ⟨?_, ?_⟩⟩⟩
  · exact Path.parse_absoluteText names (fun name hname => (hcomponent name).mpr (hnames name hname))
  · exact (hcomponent name).mp (Path.parse_isComponent path name hname)
  · exact Path.parse_text_parse path
  · rw [resolve?, resolve?, walk?_text_parse]
  · intro h
    rw [changeDirectory, changeDirectory, settle_value, settle_value, changeDirectory?_eq h,
      changeDirectory?_eq h, walk?_text_parse]

/-- A spelling of the parent that is entered by a walk, and the one that is not. -/
theorem spelled_alike_parent :
    Path.text (Path.parse ".//../") = ".." ∧ atHome.IsPlaced ∧
      (atHome.changeDirectory "..").value = (atHome.changeDirectory ".//../").value ∧
      (∀ name ∈ ["...", "a b", ".."], name ≠ "" ∧ name ≠ "." ∧ Path.separator ∉ name.toList) ∧
      Path.parse "/.../a b/.." = ⟨true, ["...", "a b", ".."]⟩ := by
  have htext : Path.text (Path.parse ".//../") = ".." := by decide
  have hplaced : atHome.IsPlaced := ⟨by decide, by decide⟩
  have hnames : ∀ name ∈ ["...", "a b", ".."],
      name ≠ "" ∧ name ≠ "." ∧ Path.separator ∉ name.toList := by decide
  refine ⟨htext, hplaced, ?_, hnames, spelled_alike.1 _ hnames⟩
  have hentered := ((spelled_alike.2 ".//../").2.2 atHome).2 hplaced
  rw [htext] at hentered
  exact hentered

end FileSystem

end SimTerm
