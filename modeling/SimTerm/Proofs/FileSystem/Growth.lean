import Mathlib.Data.List.Nodup
import SimTerm.Proofs.FileSystem.Trail

/-!
# Trees that Grow

What a new entry does to a tree.

A directory that gets an entry is a new node, and so are all directories above
it. `Gains` says what the new node has that the old one had not, and it is all
that is ever used of the step: one child more, under a name that was free. The
directories above are made again by `Node.update`, which is looked at once, in
`child?_put`: under the name that the chain goes on with there is the child
that was made again, under any other name there is the child that was there.

What a chain of names leads to is then an induction on the chain at whose end
the tree has grown. Both chains are walked together until they part.

## Main definitions

* `Node.Gains`: A directory with one more child.
* `Node.put`: A tree with another node at the end of a chain.
* `Node.HasDistinctNames`: No directory has two entries of one name.

## Theorems

* `Node.gains_of_addChild?`: A child that is added is gained.
* `Node.child?_put`: The children in the changed tree.
* `Node.liveChain_put`: How far a chain leads there, past the place of the
  change.
* `Node.hasDirectories_put`: A chain of directories is still one.
* `Node.HasDistinctNames.put`: Names stay distinct.
* `FileSystem.attach?_cases`: What adding an entry comes to.
-/

namespace SimTerm

namespace Node

/-- A directory with one more child, under a name that was free. -/
structure Gains (child d changed : Node) : Prop where
  /-- It has gained something, so it was a directory. -/
  isDirectory_before : d.isDirectory = true
  /-- It is a directory. -/
  isDirectory : changed.isDirectory = true
  /-- It has kept its name. -/
  name : changed.name = d.name
  /-- The name of the child was free. -/
  free : ∀ c ∈ d.children, c.name ≠ child.name
  /-- The child comes last. -/
  children : changed.children = d.children ++ [child]

/-- A tree with another node at the end of a chain of names. -/
def put (changed : Node) (chain : List String) (n : Node) : Node :=
  update (fun _ => changed) chain n

/-- No directory of a tree has two entries of one name. -/
inductive HasDistinctNames : Node → Prop where
  /-- A file has no entries. -/
  | file (s : Stat) (content : String) : HasDistinctNames (.file s content)
  /-- The entries of a directory have distinct names, and so do theirs. -/
  | directory (s : Stat) (size : Json) (cs : List Node) (hnames : (cs.map name).Nodup)
      (hcs : ∀ c ∈ cs, HasDistinctNames c) : HasDistinctNames (.directory s size cs)

/-! ### One more child -/

theorem gains_of_addChild? (now : Moment) (child d changed : Node)
    (h : addChild? now child d = some changed) : Gains child d changed := by
  cases d with
  | file s content => exact absurd h (by simp only [addChild?, reduceCtorEq, not_false_eq_true])
  | directory s size cs =>
      rw [addChild?] at h
      by_cases htaken : cs.any (fun c => c.name == child.name) = true
      · rw [if_pos htaken] at h
        exact absurd h (by simp only [reduceCtorEq, not_false_eq_true])
      · rw [if_neg htaken, Option.some.injEq] at h
        rw [← h]
        refine ⟨rfl, rfl, rfl, fun c hc hname => htaken ?_, rfl⟩
        exact List.any_eq_true.mpr ⟨c, hc, beq_iff_eq.mpr hname⟩

theorem child?_eq_none_of_free (n : Node) (name : String) (h : ∀ c ∈ n.children, c.name ≠ name) :
    n.child? name = none :=
  List.find?_eq_none.mpr (fun c hc hname => h c hc (beq_iff_eq.mp hname))

theorem Gains.child? {child d changed : Node} (h : Gains child d changed) (name : String) :
    changed.child? name = if name = child.name then some child else d.child? name := by
  -- The new child is only looked at when none of the others has the name.
  rw [Node.child?, h.children, List.find?_append]
  by_cases hname : name = child.name
  · rw [if_pos hname, hname, ← Node.child?, d.child?_eq_none_of_free child.name h.free,
      Option.none_or, List.find?_singleton, beq_self_eq_true, if_pos rfl]
  · have hother : ¬ (child.name == name) = true := fun hc => hname (beq_iff_eq.mp hc).symm
    rw [if_neg hname, List.find?_singleton, if_neg hother, Option.or_none, Node.child?]

theorem Gains.child?_of_child? {child d changed : Node} (h : Gains child d changed)
    (name : String) (c : Node) (hc : d.child? name = some c) : changed.child? name = some c := by
  rw [h.child?, if_neg, hc]
  intro hname
  rw [hname, d.child?_eq_none_of_free child.name h.free] at hc
  exact absurd hc (by simp only [reduceCtorEq, not_false_eq_true])

theorem name_of_find? (chain : List String) (n d : Node) (h : find? chain n = some d) :
    ∀ last ∈ chain.getLast?, d.name = last := by
  intro last hlast
  rcases List.getLast?_eq_some_iff.mp hlast with ⟨init, rfl⟩
  rw [find?_concat] at h
  rcases Option.bind_eq_some_iff.mp h with ⟨e, _, hd⟩
  exact name_of_child? e d last hd

theorem Gains.isDirectory_eq {child d changed : Node} (h : Gains child d changed) :
    changed.isDirectory = d.isDirectory := by
  rw [h.isDirectory, h.isDirectory_before]

theorem Gains.name_eq_last {child d changed : Node} (h : Gains child d changed)
    (chain : List String) (n : Node) (hfind : find? chain n = some d) :
    ∀ last ∈ chain.getLast?, changed.name = last := by
  rw [h.name]
  exact name_of_find? chain n d hfind

/-! ### Another node at the end of a chain -/

@[simp] theorem put_nil (changed n : Node) : put changed [] n = changed := rfl

theorem forall_getLast?_of_cons (name : String) (rest : List String) (P : String → Prop)
    (h : ∀ last ∈ (name :: rest).getLast?, P last) : ∀ last ∈ rest.getLast?, P last := by
  cases rest with
  | nil => exact fun last hlast => absurd hlast (by simp only [List.getLast?_nil, Option.mem_def,
      reduceCtorEq, not_false_eq_true])
  | cons next more =>
      rw [List.getLast?_cons_cons] at h
      exact h

theorem name_put (changed : Node) (name : String) (rest : List String) (c : Node)
    (hlast : ∀ last ∈ (name :: rest).getLast?, changed.name = last) (hc : c.name = name) :
    (put changed rest c).name = c.name := by
  cases rest with
  | nil => rw [put_nil, hc, hlast name rfl]
  | cons next more => cases c <;> rfl

/-- A child that is made again keeps its name, and the others are not touched. -/
theorem name_replaced (changed : Node) (name : String) (rest : List String)
    (hlast : ∀ last ∈ (name :: rest).getLast?, changed.name = last) (c : Node) :
    (if c.name == name then put changed rest c else c).name = c.name := by
  by_cases hc : (c.name == name) = true
  · rw [if_pos hc, name_put changed name rest c hlast (beq_iff_eq.mp hc)]
  · rw [if_neg hc]

theorem children_put (changed : Node) (name : String) (rest : List String) (n : Node) :
    (put changed (name :: rest) n).children
      = n.children.map (fun c => if c.name == name then put changed rest c else c) := by
  cases n <;> rfl

/-- In the changed tree only the child that the chain goes through is another. -/
theorem child?_put (changed : Node) (name : String) (rest : List String) (n : Node)
    (hlast : ∀ last ∈ (name :: rest).getLast?, changed.name = last) (other : String) :
    (put changed (name :: rest) n).child? other
      = if other = name then (n.child? name).map (put changed rest) else n.child? other := by
  have hmap : (put changed (name :: rest) n).child? other
      = (n.child? other).map (fun c => if c.name == name then put changed rest c else c) := by
    -- A child is found where it was, as it has kept its name.
    rw [child?, children_put, List.find?_map, child?]
    simp only [Function.comp_def, name_replaced changed name rest hlast]
  rw [hmap]
  by_cases hother : other = name
  · rw [if_pos hother, hother]
    refine Option.map_congr (fun c hc => ?_)
    rw [if_pos (beq_iff_eq.mpr (name_of_child? n c name hc))]
  · rw [if_neg hother]
    cases hc : n.child? other with
    | none => rfl
    | some c =>
        rw [Option.map_some, if_neg]
        rw [name_of_child? n c other hc]
        exact fun h => hother (beq_iff_eq.mp h)

theorem isDirectory_put (changed : Node) (chain : List String) (n d : Node)
    (hfind : find? chain n = some d) (hdir : changed.isDirectory = d.isDirectory) :
    (put changed chain n).isDirectory = n.isDirectory := by
  cases chain with
  | nil =>
      rw [find?, Option.some.injEq] at hfind
      rw [put_nil, hdir, hfind]
  | cons name rest => cases n <;> rfl

theorem liveChain_put (child d changed : Node) (hgains : Gains child d changed)
    (chain more : List String) (n : Node) (hfind : find? chain n = some d)
    (hdirs : hasDirectories chain n = true) :
    liveChain (chain ++ more) (put changed chain n) = chain ++ liveChain more changed := by
  have hlast := hgains.name_eq_last chain n hfind
  induction chain generalizing n with
  | nil => rfl
  | cons name rest ih =>
      rcases (hasDirectories_cons name rest n).mp hdirs with ⟨c, hc, hcdir, hrest⟩
      rw [find?_cons, hc, Option.bind_some] at hfind
      have hchild : (put changed (name :: rest) n).child? name = some (put changed rest c) := by
        rw [child?_put changed name rest n hlast, if_pos rfl, hc, Option.map_some]
      have hputdir : (put changed rest c).isDirectory = true := by
        rw [isDirectory_put changed rest c d hfind hgains.isDirectory_eq, hcdir]
      rw [List.cons_append, liveChain_cons_of_child? name (rest ++ more) _ _ hchild hputdir,
        ih c hfind hrest (forall_getLast?_of_cons name rest _ hlast), List.cons_append]

/-- A chain of directories is still one when a directory somewhere in the tree
    has gained a child. -/
theorem hasDirectories_put (child d changed : Node) (hgains : Gains child d changed)
    (chain other : List String) (n : Node) (hfind : find? chain n = some d)
    (h : hasDirectories other n = true) : hasDirectories other (put changed chain n) = true := by
  have hlast := hgains.name_eq_last chain n hfind
  induction chain generalizing other n with
  | nil =>
      -- Where the child was gained, the others are what they were.
      rw [find?, Option.some.injEq] at hfind
      rw [put_nil]
      rw [hfind] at h
      cases other with
      | nil => rfl
      | cons first others =>
          rcases (hasDirectories_cons first others d).mp h with ⟨c, hc, hrest⟩
          exact (hasDirectories_cons first others changed).mpr
            ⟨c, hgains.child?_of_child? first c hc, hrest⟩
  | cons name rest ih =>
      cases other with
      | nil => rfl
      | cons first others =>
          rcases (hasDirectories_cons first others n).mp h with ⟨c, hc, hcdir, hrest⟩
          refine (hasDirectories_cons first others _).mpr ?_
          rw [child?_put changed name rest n hlast]
          -- Either both chains go on to the same child, or they part here.
          by_cases hfirst : first = name
          · rw [hfirst] at hc
            rw [find?_cons, hc, Option.bind_some] at hfind
            rw [if_pos hfirst, hc, Option.map_some]
            refine ⟨_, rfl, ?_, ih others c hfind hrest (forall_getLast?_of_cons name rest _ hlast)⟩
            rw [isDirectory_put changed rest c d hfind hgains.isDirectory_eq, hcdir]
          · rw [if_neg hfirst]
            exact ⟨c, hc, hcdir, hrest⟩

/-! ### Distinct names -/

theorem hasDistinctNames_iff (n : Node) :
    HasDistinctNames n ↔ (n.children.map name).Nodup ∧ ∀ c ∈ n.children, HasDistinctNames c := by
  constructor
  · intro h
    cases h with
    | file s content => exact ⟨List.nodup_nil, fun c hc => absurd hc List.not_mem_nil⟩
    | directory s size cs hnames hcs => exact ⟨hnames, hcs⟩
  · intro h
    cases n with
    | file s content => exact .file s content
    | directory s size cs => exact .directory s size cs h.1 h.2

theorem HasDistinctNames.find? {n : Node} (h : HasDistinctNames n) (chain : List String) (d : Node)
    (hd : Node.find? chain n = some d) : HasDistinctNames d := by
  induction chain generalizing n with
  | nil =>
      rw [Node.find?, Option.some.injEq] at hd
      rw [← hd]
      exact h
  | cons name rest ih =>
      rw [find?_cons] at hd
      rcases Option.bind_eq_some_iff.mp hd with ⟨c, hc, hrest⟩
      exact ih (((hasDistinctNames_iff n).mp h).2 c (List.mem_of_find?_eq_some hc)) hrest

theorem HasDistinctNames.child?_name {n : Node} (h : HasDistinctNames n) (c : Node)
    (hc : c ∈ n.children) : n.child? c.name = some c := by
  have hnames := ((hasDistinctNames_iff n).mp h).1
  cases hfound : n.child? c.name with
  | none =>
      exact absurd (beq_self_eq_true c.name) (List.find?_eq_none.mp hfound c hc)
  | some e =>
      -- The entry that is found has the name of `c`, and names are distinct.
      have he : e ∈ n.children := List.mem_of_find?_eq_some hfound
      rw [List.inj_on_of_nodup_map hnames he hc (name_of_child? n e c.name hfound)]

theorem HasDistinctNames.gains {child d changed : Node} (h : HasDistinctNames d)
    (hchild : HasDistinctNames child) (hgains : Gains child d changed) :
    HasDistinctNames changed := by
  rcases (hasDistinctNames_iff d).mp h with ⟨hnames, hcs⟩
  rw [hasDistinctNames_iff, hgains.children, List.map_append, List.map_singleton]
  constructor
  · refine List.nodup_append.mpr ⟨hnames, List.nodup_singleton _, fun a ha b hb => ?_⟩
    rcases List.mem_map.mp ha with ⟨c, hc, rfl⟩
    rw [List.mem_singleton.mp hb]
    exact hgains.free c hc
  · intro c hc
    rcases List.mem_append.mp hc with hc | hc
    · exact hcs c hc
    · rw [List.mem_singleton.mp hc]
      exact hchild

theorem HasDistinctNames.put {n changed : Node} (h : HasDistinctNames n)
    (hchanged : HasDistinctNames changed) (chain : List String)
    (hlast : ∀ last ∈ chain.getLast?, changed.name = last) :
    HasDistinctNames (Node.put changed chain n) := by
  induction chain generalizing n with
  | nil => exact hchanged
  | cons name rest ih =>
      rcases (hasDistinctNames_iff n).mp h with ⟨hnames, hcs⟩
      rw [hasDistinctNames_iff, children_put, List.map_map]
      constructor
      · have hsame : n.children.map
            (Node.name ∘ fun c => if c.name == name then Node.put changed rest c else c)
              = n.children.map Node.name :=
          List.map_congr_left (fun c _ => name_replaced changed name rest hlast c)
        rw [hsame]
        exact hnames
      · intro e he
        rcases List.mem_map.mp he with ⟨c, hc, rfl⟩
        by_cases hname : (c.name == name) = true
        · rw [if_pos hname]
          exact ih (hcs c hc) (forall_getLast?_of_cons name rest _ hlast)
        · rw [if_neg hname]
          exact hcs c hc

end Node

namespace FileSystem

theorem attach?_eq (fs : FileSystem) (now : Moment) (chain : List String) (child : Node) :
    fs.attach? now chain child
      = ((Node.find? chain fs.root).bind (Node.addChild? now child)).map
        (fun changed => { fs with root := Node.put changed chain fs.root }) := by
  rw [attach?]
  cases (Node.find? chain fs.root).bind (Node.addChild? now child) <;> rfl

/-- An entry is added to the directory at the end of a chain of names, or there
    is no change. -/
theorem attach?_cases (fs : FileSystem) (now : Moment) (chain : List String) (child : Node) :
    fs.attach? now chain child = none ∨
      ∃ d changed, Node.find? chain fs.root = some d ∧ Node.Gains child d changed ∧
        fs.attach? now chain child = some { fs with root := Node.put changed chain fs.root } := by
  rw [attach?_eq]
  cases hfind : Node.find? chain fs.root with
  | none => exact .inl rfl
  | some d =>
      rw [Option.bind_some]
      cases hadd : Node.addChild? now child d with
      | none => exact .inl rfl
      | some changed =>
          exact .inr ⟨d, changed, rfl, Node.gains_of_addChild? now child d changed hadd, rfl⟩

end FileSystem

end SimTerm
