import SimTerm.Proofs.FileSystem.Growth

/-!
# Places in a Tree that Grows

What stands where after an entry was added somewhere else.

A place in a tree is a chain of names, and there are three ways in which it can
lie to the place of a change. It lies on the way to it, it lies behind it, or
the two chains part before either of them ends. On the way there is what was
there, with the change made somewhere below it (`find?_put_on_way`). Behind
it one looks into the changed directory (`find?_put_append`). Where the chains
part there is exactly what was there (`find?_put_of_part`).

From these three come the two statements that are used. No place is lost, and
what stands there is the same node or one with the change below it
(`find?_put`). No place is won, except for the new entry and what is below it
(`find?_of_find?_put`).

Paths are walked from place to place, and `Trail.walk?_alike` takes the places
of one tree to those of another. It asks for one step only: a child that is
found in the one tree is found in the other, and is a directory in both or in
none. The same walk then ends at the same chain of names.

A node with something changed below it looks the same from outside. `Face` is
what is seen of a node without looking into it, except for when it was changed,
since that is what an entry does change.

## Main definitions

* `Node.Face`: What is seen of a node.
* `Node.Keeps`: Nothing is lost, retyped or overwritten from one tree to another.

## Theorems

* `Node.addChild?_eq_some_iff`: When a directory takes one more child.
* `Node.find?_put`: No place is lost.
* `Node.find?_of_find?_put`: No place is won but the new one.
* `Node.keeps_put`: Files stay as they are, and directories stay directories.
* `Node.face_put`, `Node.faces_put`: A change below a node is not seen.
* `Trail.walk?_alike`: A walk in one tree is a walk in another.
-/

namespace SimTerm

namespace Node

/-- What is seen of a node without looking into it: all but when it was
    changed. -/
structure Face where
  /-- The name. -/
  name : String
  /-- Whether it is a directory. -/
  isDirectory : Bool
  /-- The permissions. -/
  permissions : Json
  /-- The size that is shown. -/
  size : Json
  /-- The text of a file. -/
  content? : Option String

/-- What is seen of a node. -/
def face (n : Node) : Face := ⟨n.name, n.isDirectory, n.stat.permissions, n.size, n.content?⟩

/-- What stands somewhere in the one tree stands there in the other: a
    directory is still a directory, and a file is still the same file. -/
def Keeps (n n' : Node) : Prop :=
  ∀ chain m, find? chain n = some m →
    ∃ m', find? chain n' = some m' ∧ m'.isDirectory = m.isDirectory ∧
      (m.isDirectory = false → m' = m)

/-- A directory with one more child, changed at a moment. -/
def gained (now : Moment) (child : Node) : Node → Node
  | .file s content => .file s content
  | .directory s size cs => .directory { s with modified := now } size (cs ++ [child])

/-! ### One more child -/

/-- A directory takes one more child when the name is free. -/
theorem addChild?_eq_some_iff (now : Moment) (child d changed : Node) :
    addChild? now child d = some changed ↔
      d.isDirectory = true ∧ d.child? child.name = none ∧ changed = gained now child d := by
  cases d with
  | file s content => simp only [addChild?, isDirectory, reduceCtorEq, Bool.false_eq_true, false_and]
  | directory s size cs =>
      have hany : cs.any (fun c => c.name == child.name) = true ↔
          ¬ (directory s size cs).child? child.name = none := by
        rw [child?, children, List.find?_eq_none, List.any_eq_true]
        simp only [not_forall, not_not, exists_prop]
      rw [addChild?]
      by_cases htaken : cs.any (fun c => c.name == child.name) = true
      · simp only [if_pos htaken, reduceCtorEq, hany.mp htaken, false_and, and_false]
      · have hfree : (directory s size cs).child? child.name = none := by
          by_contra hc
          exact htaken (hany.mpr hc)
        rw [if_neg htaken, Option.some.injEq, eq_comm]
        simp only [hfree, isDirectory, gained, true_and]

@[simp] theorem face_gained (now : Moment) (child d : Node) : (gained now child d).face = d.face := by
  cases d <;> rfl

/-! ### Three ways for a place to lie -/

/-- On the way to the change there is what was there, changed further down. -/
theorem find?_put_on_way (changed : Node) (chain other : List String) (n : Node)
    (hlast : ∀ last ∈ chain.getLast?, changed.name = last) (h : other <+: chain) :
    find? other (put changed chain n)
      = (find? other n).map (put changed (chain.drop other.length)) := by
  induction other generalizing chain n with
  | nil => rfl
  | cons first others ih =>
      cases chain with
      | nil => exact absurd (List.prefix_nil.mp h) (List.cons_ne_nil _ _)
      | cons name rest =>
          rcases List.cons_prefix_cons.mp h with ⟨rfl, hothers⟩
          have hrest := forall_getLast?_of_cons first rest _ hlast
          rw [find?_cons, child?_put changed first rest n hlast, if_pos rfl, find?_cons]
          cases n.child? first with
          | none => rfl
          | some c =>
              rw [Option.map_some, Option.bind_some, Option.bind_some, ih rest c hrest hothers]
              rfl

/-- Behind the change one looks into what was put there. -/
theorem find?_put_append (changed : Node) (chain more : List String) (n d : Node)
    (hlast : ∀ last ∈ chain.getLast?, changed.name = last) (hd : find? chain n = some d) :
    find? (chain ++ more) (put changed chain n) = find? more changed := by
  rw [find?_append, find?_put_on_way changed chain chain n hlast List.prefix_rfl, hd,
    List.drop_length, Option.map_some, put_nil, Option.bind_some]

/-- Where the chains part there is what was there. -/
theorem find?_put_of_part (changed : Node) (chain other : List String) (n : Node)
    (hlast : ∀ last ∈ chain.getLast?, changed.name = last)
    (hchain : ¬ chain <+: other) (hother : ¬ other <+: chain) :
    find? other (put changed chain n) = find? other n := by
  induction chain generalizing other n with
  | nil => exact absurd List.nil_prefix hchain
  | cons name rest ih =>
      cases other with
      | nil => exact absurd List.nil_prefix hother
      | cons first others =>
          have hrest := forall_getLast?_of_cons name rest _ hlast
          rw [find?_cons, find?_cons, child?_put changed name rest n hlast]
          by_cases hfirst : first = name
          · -- They go on together and part further down.
            have hparts : ∀ c, find? others (put changed rest c) = find? others c := fun c =>
              ih others c hrest
                (fun h => hchain (List.cons_prefix_cons.mpr ⟨hfirst.symm, h⟩))
                (fun h => hother (List.cons_prefix_cons.mpr ⟨hfirst, h⟩))
            rw [if_pos hfirst, hfirst]
            cases n.child? name with
            | none => rfl
            | some c => exact hparts c
          · rw [if_neg hfirst]

/-! ### No place is lost, and one is won -/

theorem find?_of_file (s : Stat) (content : String) (chain : List String) (d : Node)
    (h : find? chain (.file s content) = some d) : chain = [] ∧ d = .file s content := by
  cases chain with
  | nil => exact ⟨rfl, (Option.some.inj h).symm⟩
  | cons name rest =>
      rw [find?_cons] at h
      exact absurd h (by simp only [child?, children, List.find?_nil, Option.bind_none, reduceCtorEq,
        not_false_eq_true])

/-- What stood somewhere still stands there, or there is now a change below it. -/
theorem find?_put (child d changed : Node) (hgains : Gains child d changed)
    (chain other : List String) (n m : Node) (hfind : find? chain n = some d)
    (hm : find? other n = some m) :
    (∃ rest, chain = other ++ rest ∧ find? rest m = some d ∧
        find? other (put changed chain n) = some (put changed rest m)) ∨
      (¬ other <+: chain ∧ find? other (put changed chain n) = some m) := by
  have hlast := hgains.name_eq_last chain n hfind
  by_cases hother : other <+: chain
  · left
    rcases hother with ⟨rest, rfl⟩
    refine ⟨rest, rfl, ?_, ?_⟩
    · rw [find?_append, hm, Option.bind_some] at hfind
      exact hfind
    · rw [find?_put_on_way changed _ other n hlast (List.prefix_append _ _), hm, Option.map_some,
        List.drop_left]
  · right
    refine ⟨hother, ?_⟩
    by_cases hchain : chain <+: other
    · rcases hchain with ⟨more, rfl⟩
      rw [find?_put_append changed chain more n d hlast hfind]
      rw [find?_append, hfind, Option.bind_some] at hm
      cases more with
      | nil =>
          rw [List.append_nil] at hother
          exact absurd List.prefix_rfl hother
      | cons name rest =>
          -- It stands below a child of the directory, and that is still a child.
          rw [find?_cons] at hm ⊢
          rcases Option.bind_eq_some_iff.mp hm with ⟨c, hc, hrest⟩
          rw [hgains.child?_of_child? name c hc, Option.bind_some, hrest]
    · rw [find?_put_of_part changed chain other n hlast hchain hother, hm]

/-- What stands somewhere stood there, or it is the new entry or below it. -/
theorem find?_of_find?_put (child d changed : Node) (hgains : Gains child d changed)
    (chain other : List String) (n m : Node) (hfind : find? chain n = some d)
    (hm : find? other (put changed chain n) = some m) :
    (∃ m', find? other n = some m') ∨
      ∃ more, other = chain ++ child.name :: more ∧ find? more child = some m := by
  have hlast := hgains.name_eq_last chain n hfind
  by_cases hchain : chain <+: other
  · rcases hchain with ⟨more, rfl⟩
    rw [find?_put_append changed chain more n d hlast hfind] at hm
    rw [find?_append, hfind, Option.bind_some]
    cases more with
    | nil => exact .inl ⟨d, rfl⟩
    | cons name rest =>
        rw [find?_cons] at hm ⊢
        rw [hgains.child? name] at hm
        by_cases hname : name = child.name
        · right
          rw [if_pos hname, Option.bind_some] at hm
          exact ⟨rest, by rw [hname], hm⟩
        · left
          rw [if_neg hname] at hm
          exact ⟨m, hm⟩
  · left
    by_cases hother : other <+: chain
    · rw [find?_put_on_way changed chain other n hlast hother] at hm
      rcases Option.map_eq_some_iff.mp hm with ⟨m', hm', _⟩
      exact ⟨m', hm'⟩
    · rw [find?_put_of_part changed chain other n hlast hchain hother] at hm
      exact ⟨m, hm⟩

/-- A tree that has gained an entry keeps what it had. -/
theorem keeps_put (child d changed : Node) (hgains : Gains child d changed)
    (chain : List String) (n : Node) (hfind : find? chain n = some d) :
    Keeps n (put changed chain n) := by
  intro other m hm
  rcases find?_put child d changed hgains chain other n m hfind hm with
    ⟨rest, _, hrest, hput⟩ | ⟨_, hput⟩
  · refine ⟨_, hput, isDirectory_put changed rest m d hrest hgains.isDirectory_eq, fun hfile => ?_⟩
    -- There is a directory at or below the place, so no file stands there.
    have hdir := hgains.isDirectory_before
    cases m with
    | file s content =>
        rw [(find?_of_file s content rest d hrest).2] at hdir
        exact absurd hdir Bool.false_ne_true
    | directory s size cs => exact absurd hfile.symm Bool.false_ne_true
  · exact ⟨m, hput, rfl, fun _ => rfl⟩

theorem Keeps.refl (n : Node) : Keeps n n := fun _ m hm => ⟨m, hm, rfl, fun _ => rfl⟩

theorem Keeps.trans {n n' n'' : Node} (h : Keeps n n') (h' : Keeps n' n'') : Keeps n n'' := by
  intro chain m hm
  rcases h chain m hm with ⟨m', hm', hdir, hfile⟩
  rcases h' chain m' hm' with ⟨m'', hm'', hdir', hfile'⟩
  refine ⟨m'', hm'', hdir'.trans hdir, fun hm => ?_⟩
  rw [hfile' (hdir.trans hm), hfile hm]

/-! ### What is seen of it -/

theorem face_put (changed d : Node) (chain : List String) (n : Node)
    (hfind : find? chain n = some d) (hface : changed.face = d.face) :
    (put changed chain n).face = n.face := by
  cases chain with
  | nil =>
      rw [put_nil, hface, ← Option.some.inj hfind]
  | cons name rest => cases n <;> rfl

theorem modified_put (changed : Node) (name : String) (rest : List String) (n : Node) :
    (put changed (name :: rest) n).stat.modified = n.stat.modified := by
  cases n <;> rfl

/-- What is seen of the entries of a directory does not change with something
    below one of them. -/
theorem faces_put (changed d : Node) (name : String) (rest : List String) (n : Node)
    (hnames : HasDistinctNames n) (hfind : find? (name :: rest) n = some d)
    (hface : changed.face = d.face) :
    (put changed (name :: rest) n).children.map face = n.children.map face := by
  rw [children_put, List.map_map]
  refine List.map_congr_left (fun c hc => ?_)
  rw [Function.comp_apply]
  by_cases hname : (c.name == name) = true
  · -- As names are distinct, this is the entry that the chain goes through.
    have hchild := hnames.child?_name c hc
    rw [beq_iff_eq.mp hname] at hchild
    rw [find?_cons, hchild, Option.bind_some] at hfind
    rw [if_pos hname, face_put changed d rest c hfind hface]
  · rw [if_neg hname]

end Node

namespace Trail

/-- A walk in one tree is a walk in another, to the same chain of names, when
    every step to a child can be taken in both. -/
theorem walk?_alike (root root' : Node) (hroot : root.isDirectory = true)
    (hroot' : root'.isDirectory = true) (components : List String)
    (hstep : ∀ chain name c, name ∈ components → Node.find? (chain ++ [name]) root = some c →
      (∃ d', Node.find? chain root' = some d') →
      ∃ c', Node.find? (chain ++ [name]) root' = some c' ∧ c'.isDirectory = c.isDirectory)
    (t t' u : Trail) (ht : IsWay root t) (ht' : IsWay root' t') (hnames : t'.names = t.names)
    (hdir : (t'.node root').isDirectory = (t.node root).isDirectory)
    (h : walk? root t components = some u) :
    ∃ u', walk? root' t' components = some u' ∧ u'.names = u.names := by
  induction components generalizing t t' with
  | nil =>
      rw [walk?, Option.some.injEq] at h
      exact ⟨t', rfl, by rw [hnames, h]⟩
  | cons name rest ih =>
      have hrest := ih (fun chain other c hother =>
        hstep chain other c (List.mem_cons_of_mem _ hother))
      rw [walk?] at h ⊢
      rw [hdir]
      by_cases hnot : (!(t.node root).isDirectory) = true
      · rw [if_pos hnot] at h
        exact absurd h (by simp only [reduceCtorEq, not_false_eq_true])
      · rw [if_neg hnot] at h ⊢
        by_cases hdots : (name == "..") = true
        · -- One step back there is a directory in both trees.
          rw [if_pos hdots] at h ⊢
          refine hrest t.tail t'.tail ht.tail ht'.tail ?_ ?_ h
          · rw [names_tail, names_tail, hnames]
          · rw [ht.isDirectory_tail hroot, ht'.isDirectory_tail hroot']
        · rw [if_neg hdots] at h ⊢
          cases hc : (t.node root).child? name with
          | none =>
              rw [hc] at h
              exact absurd h (by simp only [reduceCtorEq, not_false_eq_true])
          | some c =>
              rw [hc] at h
              have hfind : Node.find? (t.names ++ [name]) root = some c := by
                rw [Node.find?_concat, ht.find?_names, Option.bind_some, hc]
              have hplace : Node.find? t.names root' = some (t'.node root') := by
                rw [← hnames, ht'.find?_names]
              rcases hstep t.names name c List.mem_cons_self hfind ⟨_, hplace⟩ with
                ⟨c', hc', hcdir⟩
              rw [Node.find?_concat, hplace, Option.bind_some] at hc'
              rw [hc']
              refine hrest ((name, c) :: t) ((name, c') :: t') ⟨hc, ht⟩ ⟨hc', ht'⟩ ?_ hcdir h
              rw [names_cons, names_cons, hnames]

end Trail

end SimTerm
