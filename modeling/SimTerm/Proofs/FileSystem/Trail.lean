import SimTerm.FileSystem

/-!
# Trails

Where a chain of names leads in a tree, and the trail that leads there.

A trail carries the nodes it has visited, so that a double dot can go back to
one of them. Any list of names and nodes has that type. The trails that a walk
makes are those on which each node is the child of the one before
(`Trail.IsWay`), and of these there is only one for each chain of names, as a
name has at most one child (`IsWay.eq_of_names`). So a trail may be forgotten
and found again from its names, which is what the current directory is stored
as. `follow_names` is that statement.

The names do not always lead as far as they did. `Node.liveChain` is the part
of a chain that still leads from directory to directory, and
`liveChain_greatest` says that it is the longest such part.

## Main definitions

* `Node.hasDirectories`: Whether a chain leads from directory to directory.
* `Node.liveChain`: The part of a chain that does.
* `Trail.IsWay`: Each node on a trail is a child of the one before.

## Theorems

* `Node.hasDirectories_iff`: A chain leads through directories when there is a
  directory at its end.
* `Node.liveChain_greatest`: The live part of a chain is the longest.
* `Trail.IsWay.eq_of_names`: A way is known from its names.
* `Trail.names_follow`: Following a chain gives its live part.
* `Trail.follow_names`: A way to a directory is found again from its names.
* `Trail.walk?_append`: A walk can be interrupted.
* `Trail.walk?_names`: Names without double dots are walked as they are
  written.
-/

namespace SimTerm

namespace Node

/-- Whether a chain of names leads from directory to directory. -/
def hasDirectories : List String → Node → Bool
  | [], _ => true
  | name :: rest, n =>
    match n.child? name with
    | none => false
    | some c => c.isDirectory && hasDirectories rest c

/-- The part of a chain of names that leads from directory to directory. -/
def liveChain : List String → Node → List String
  | [], _ => []
  | name :: rest, n =>
    match n.child? name with
    | none => []
    | some c => if c.isDirectory then name :: liveChain rest c else []

/-! ### Children -/

/-- Only a directory has children. -/
theorem isDirectory_of_child? (n c : Node) (name : String) (h : n.child? name = some c) :
    n.isDirectory = true := by
  cases n with
  | file s content => exact absurd h (by simp only [child?, children, List.find?_nil, reduceCtorEq,
      not_false_eq_true])
  | directory s size cs => rfl

theorem name_of_child? (n c : Node) (name : String) (h : n.child? name = some c) :
    c.name = name := by
  rw [child?] at h
  have hname := List.find?_some h
  exact beq_iff_eq.mp hname

theorem find?_cons (name : String) (rest : List String) (n : Node) :
    find? (name :: rest) n = (n.child? name).bind (find? rest) := by
  rw [find?]
  cases n.child? name <;> rfl

theorem find?_append (chain more : List String) (n : Node) :
    find? (chain ++ more) n = (find? chain n).bind (find? more) := by
  induction chain generalizing n with
  | nil => rfl
  | cons name rest ih =>
      rw [List.cons_append, find?_cons, find?_cons]
      cases n.child? name with
      | none => rfl
      | some c => exact ih c

theorem find?_concat (chain : List String) (name : String) (n : Node) :
    find? (chain ++ [name]) n = (find? chain n).bind (fun d => d.child? name) := by
  rw [find?_append]
  congr 1
  funext d
  rw [find?_cons]
  cases d.child? name <;> rfl

/-! ### Chains of directories -/

theorem hasDirectories_cons (name : String) (rest : List String) (n : Node) :
    hasDirectories (name :: rest) n = true ↔
      ∃ c, n.child? name = some c ∧ c.isDirectory = true ∧ hasDirectories rest c = true := by
  rw [hasDirectories]
  cases n.child? name with
  | none => simp only [Bool.false_eq_true, reduceCtorEq, false_and, exists_false]
  | some c => simp only [Bool.and_eq_true, Option.some.injEq, exists_eq_left']

/-- In a directory a chain leads through directories when there is one at its
    end: those in between have children. -/
theorem hasDirectories_iff (chain : List String) (n : Node) (hn : n.isDirectory = true) :
    hasDirectories chain n = true ↔ ∃ d, find? chain n = some d ∧ d.isDirectory = true := by
  induction chain generalizing n with
  | nil =>
      simp only [hasDirectories, find?, Option.some.injEq, exists_eq_left', hn]
  | cons name rest ih =>
      rw [hasDirectories_cons, find?_cons]
      cases hc : n.child? name with
      | none => simp only [reduceCtorEq, false_and, exists_false, Option.bind_none]
      | some c =>
          rw [Option.bind_some]
          constructor
          · rintro ⟨e, he, hdir, hrest⟩
            rw [← Option.some.inj he] at hdir hrest
            exact (ih c hdir).mp hrest
          · rintro ⟨d, hd, hdir⟩
            -- The child is at the end of the chain, or it has a child itself.
            have hcdir : c.isDirectory = true := by
              cases rest with
              | nil =>
                  rw [find?, Option.some.injEq] at hd
                  rw [hd]
                  exact hdir
              | cons next more =>
                  rw [find?_cons] at hd
                  rcases Option.bind_eq_some_iff.mp hd with ⟨e, he, _⟩
                  exact isDirectory_of_child? c e next he
            exact ⟨c, rfl, hcdir, (ih c hcdir).mpr ⟨d, hd, hdir⟩⟩

theorem hasDirectories_of_prefix (chain part : List String) (n : Node) (hpart : part <+: chain)
    (h : hasDirectories chain n = true) : hasDirectories part n = true := by
  induction chain generalizing part n with
  | nil =>
      rw [List.prefix_nil.mp hpart]
      rfl
  | cons name rest ih =>
      cases part with
      | nil => rfl
      | cons first others =>
          rcases List.cons_prefix_cons.mp hpart with ⟨rfl, hothers⟩
          rcases (hasDirectories_cons first rest n).mp h with ⟨c, hc, hdir, hrest⟩
          exact (hasDirectories_cons first others n).mpr ⟨c, hc, hdir, ih others c hothers hrest⟩

/-! ### The live part of a chain -/

theorem liveChain_cons_of_child? (name : String) (rest : List String) (n c : Node)
    (hc : n.child? name = some c) (hdir : c.isDirectory = true) :
    liveChain (name :: rest) n = name :: liveChain rest c := by
  simp only [liveChain, hc, hdir, if_true]

theorem liveChain_cons_eq_nil (name : String) (rest : List String) (n : Node)
    (h : ∀ c, n.child? name = some c → c.isDirectory = false) :
    liveChain (name :: rest) n = [] := by
  rw [liveChain]
  cases hc : n.child? name with
  | none => rfl
  | some c => simp only [h c hc, Bool.false_eq_true, if_false]

theorem liveChain_isPrefix (chain : List String) (n : Node) : liveChain chain n <+: chain := by
  induction chain generalizing n with
  | nil => exact List.prefix_rfl
  | cons name rest ih =>
      rw [liveChain]
      cases n.child? name with
      | none => exact List.nil_prefix
      | some c =>
          by_cases hdir : c.isDirectory = true
          · simp only [if_pos hdir]
            exact List.cons_prefix_cons.mpr ⟨rfl, ih c⟩
          · simp only [if_neg hdir]
            exact List.nil_prefix

theorem hasDirectories_liveChain (chain : List String) (n : Node) :
    hasDirectories (liveChain chain n) n = true := by
  induction chain generalizing n with
  | nil => rfl
  | cons name rest ih =>
      rw [liveChain]
      cases hc : n.child? name with
      | none => rfl
      | some c =>
          by_cases hdir : c.isDirectory = true
          · simp only [if_pos hdir]
            exact (hasDirectories_cons name _ n).mpr ⟨c, hc, hdir, ih c⟩
          · simp only [if_neg hdir]
            rfl

/-- No longer part of a chain leads from directory to directory. -/
theorem liveChain_greatest (chain part : List String) (n : Node) (hpart : part <+: chain)
    (h : hasDirectories part n = true) : part <+: liveChain chain n := by
  induction chain generalizing part n with
  | nil => exact hpart
  | cons name rest ih =>
      cases part with
      | nil => exact List.nil_prefix
      | cons first others =>
          rcases List.cons_prefix_cons.mp hpart with ⟨rfl, hothers⟩
          rcases (hasDirectories_cons first others n).mp h with ⟨c, hc, hdir, hrest⟩
          rw [liveChain_cons_of_child? first rest n c hc hdir]
          exact List.cons_prefix_cons.mpr ⟨rfl, ih others c hothers hrest⟩

theorem liveChain_eq_self (chain : List String) (n : Node) (h : hasDirectories chain n = true) :
    liveChain chain n = chain :=
  (liveChain_isPrefix chain n).eq_of_length_le
    (liveChain_greatest chain chain n List.prefix_rfl h).length_le

/-- What is cut off a chain behind its live part makes no difference to it. -/
theorem liveChain_of_prefix (chain part : List String) (n : Node) (hpart : part <+: chain)
    (h : liveChain chain n <+: part) : liveChain part n = liveChain chain n := by
  -- Each of the two is the longest of its kind, and so a part of the other.
  have hle : liveChain part n <+: liveChain chain n :=
    liveChain_greatest chain _ n ((liveChain_isPrefix part n).trans hpart)
      (hasDirectories_liveChain part n)
  have hge : liveChain chain n <+: liveChain part n :=
    liveChain_greatest part _ n h (hasDirectories_liveChain chain n)
  exact hle.eq_of_length_le hge.length_le

/-- Behind a chain of directories it is the rest of the chain that counts. -/
theorem liveChain_append (chain more : List String) (n d : Node)
    (hdirs : hasDirectories chain n = true) (hd : find? chain n = some d) :
    liveChain (chain ++ more) n = chain ++ liveChain more d := by
  induction chain generalizing n with
  | nil =>
      rw [find?, Option.some.injEq] at hd
      rw [List.nil_append, List.nil_append, hd]
  | cons name rest ih =>
      rcases (hasDirectories_cons name rest n).mp hdirs with ⟨c, hc, hdir, hrest⟩
      rw [find?_cons, hc, Option.bind_some] at hd
      rw [List.cons_append, liveChain_cons_of_child? name _ n c hc hdir, ih c hrest hd,
        List.cons_append]

end Node

namespace Trail

/-- Each node on a trail is a child of the one before, under the name that
    stands with it. -/
def IsWay (root : Node) : Trail → Prop
  | [] => True
  | (name, c) :: t => (Trail.node root t).child? name = some c ∧ IsWay root t

@[simp] theorem names_nil : names [] = [] := rfl

@[simp] theorem names_cons (name : String) (c : Node) (t : Trail) :
    names ((name, c) :: t) = t.names ++ [name] := by
  rw [names, List.map_cons, List.reverse_cons, names]

@[simp] theorem names_tail (t : Trail) : names t.tail = t.names.dropLast := by
  rw [names, names, List.map_tail, List.dropLast_reverse]

theorem IsWay.tail {root : Node} {t : Trail} (h : IsWay root t) : IsWay root t.tail := by
  cases t with
  | nil => exact h
  | cons visit t => exact h.2

theorem IsWay.find?_names {root : Node} {t : Trail} (h : IsWay root t) :
    Node.find? t.names root = some (t.node root) := by
  induction t with
  | nil => rfl
  | cons visit t ih =>
      rcases visit with ⟨name, c⟩
      rw [names_cons, Node.find?_concat, ih h.2]
      exact h.1

theorem IsWay.isDirectory_tail {root : Node} {t : Trail} (h : IsWay root t)
    (hroot : root.isDirectory = true) : (Trail.node root t.tail).isDirectory = true := by
  cases t with
  | nil => exact hroot
  | cons visit t => exact Node.isDirectory_of_child? _ visit.2 visit.1 h.1

/-- Only from a directory does a way lead anywhere. -/
theorem IsWay.isDirectory_root {root : Node} {t : Trail} (h : IsWay root t) (hne : t ≠ []) :
    root.isDirectory = true := by
  induction t with
  | nil => exact absurd rfl hne
  | cons visit t ih =>
      cases t with
      -- The first node on the way is a child of the root.
      | nil => exact Node.isDirectory_of_child? root visit.2 visit.1 h.1
      | cons before t => exact ih h.2 (List.cons_ne_nil _ _)

/-- A way is known from its names. Both ways are walked back together, and a
    name that stands on both names the same child. -/
theorem IsWay.eq_of_names {root : Node} {t u : Trail} (ht : IsWay root t) (hu : IsWay root u)
    (h : t.names = u.names) : t = u := by
  induction t generalizing u with
  | nil =>
      cases u with
      | nil => rfl
      | cons visit u =>
          rw [names_nil, names_cons] at h
          exact absurd h.symm (List.append_ne_nil_of_right_ne_nil _ (List.cons_ne_nil _ _))
  | cons visit t ih =>
      rcases visit with ⟨name, c⟩
      cases u with
      | nil =>
          rw [names_nil, names_cons] at h
          exact absurd h (List.append_ne_nil_of_right_ne_nil _ (List.cons_ne_nil _ _))
      | cons visit u =>
          rcases visit with ⟨other, d⟩
          rw [names_cons, names_cons] at h
          -- The last names are the same, and they are names of children of the same node.
          have hname : name = other := (List.append_inj_right' h rfl |> List.cons.inj).1
          have htail : t = u := ih ht.2 hu.2 (List.append_inj_left' h rfl)
          have hchild : some c = some d := by
            rw [← ht.1, ← hu.1, hname, htail]
          rw [hname, htail, Option.some.inj hchild]

/-! ### Following -/

theorem follow_isWay (root : Node) (t : Trail) (chain : List String) (h : IsWay root t) :
    IsWay root (follow root t chain) := by
  induction chain generalizing t with
  | nil => exact h
  | cons name rest ih =>
      rw [follow]
      cases hc : (t.node root).child? name with
      | none => exact h
      | some c =>
          by_cases hdir : c.isDirectory = true
          · simp only [if_pos hdir]
            exact ih ((name, c) :: t) ⟨hc, h⟩
          · simp only [if_neg hdir]
            exact h

theorem names_follow (root : Node) (t : Trail) (chain : List String) :
    (follow root t chain).names = t.names ++ Node.liveChain chain (t.node root) := by
  induction chain generalizing t with
  | nil => rw [follow, Node.liveChain, List.append_nil]
  | cons name rest ih =>
      rw [follow, Node.liveChain]
      cases hc : (t.node root).child? name with
      | none => rw [List.append_nil]
      | some c =>
          by_cases hdir : c.isDirectory = true
          · simp only [if_pos hdir]
            rw [ih, names_cons, List.append_assoc]
            rfl
          · simp only [if_neg hdir, List.append_nil]

/-- A way through directories is found again from its names. -/
theorem follow_names {root : Node} {t : Trail} (h : IsWay root t)
    (hdirs : Node.hasDirectories t.names root = true) : follow root [] t.names = t := by
  -- No induction is needed: what is found is a way, and it has these names.
  refine (follow_isWay root [] t.names trivial).eq_of_names h ?_
  rw [names_follow, names_nil, List.nil_append]
  exact Node.liveChain_eq_self t.names root hdirs

/-! ### Walking -/

theorem walk?_append (root : Node) (t : Trail) (components more : List String) :
    walk? root t (components ++ more)
      = (walk? root t components).bind (fun u => walk? root u more) := by
  induction components generalizing t with
  | nil => rfl
  | cons name rest ih =>
      rw [List.cons_append, walk?, walk?]
      by_cases hdir : (!(t.node root).isDirectory) = true
      · rw [if_pos hdir, if_pos hdir]
        rfl
      · rw [if_neg hdir, if_neg hdir]
        by_cases hdots : (name == "..") = true
        · rw [if_pos hdots, if_pos hdots]
          exact ih t.tail
        · rw [if_neg hdots, if_neg hdots]
          cases (t.node root).child? name with
          | none => rfl
          | some c => exact ih ((name, c) :: t)

/-- What holds of a trail and is kept by a step back and by a step to a child
    holds of where a walk ends. -/
theorem walk?_invariant (root : Node) (P : Trail → Prop) (components : List String)
    (hback : ∀ t, P t → P t.tail)
    (hstep : ∀ t name c, name ∈ components → name ≠ ".." → (t.node root).child? name = some c →
      P t → P ((name, c) :: t))
    (t u : Trail) (ht : P t) (h : walk? root t components = some u) : P u := by
  induction components generalizing t with
  | nil =>
      rw [walk?, Option.some.injEq] at h
      rw [← h]
      exact ht
  | cons name rest ih =>
      -- What is still to be walked are components of the same path.
      have hrest := ih (fun t other c hother =>
        hstep t other c (List.mem_cons_of_mem _ hother))
      rw [walk?] at h
      by_cases hdir : (!(t.node root).isDirectory) = true
      · rw [if_pos hdir] at h
        exact absurd h (by simp only [reduceCtorEq, not_false_eq_true])
      · rw [if_neg hdir] at h
        by_cases hdots : (name == "..") = true
        · rw [if_pos hdots] at h
          exact hrest t.tail (hback t ht) h
        · rw [if_neg hdots] at h
          cases hc : (t.node root).child? name with
          | none =>
              rw [hc] at h
              exact absurd h (by simp only [reduceCtorEq, not_false_eq_true])
          | some c =>
              rw [hc] at h
              refine hrest ((name, c) :: t) ?_ h
              exact hstep t name c List.mem_cons_self (fun hname => hdots (beq_iff_eq.mpr hname))
                hc ht

theorem walk?_of_file (root : Node) (t : Trail) (components : List String)
    (hne : components ≠ []) (h : (t.node root).isDirectory = false) :
    walk? root t components = none := by
  cases components with
  | nil => exact absurd rfl hne
  | cons name rest =>
      rw [walk?, h]
      rfl

/-- Names without double dots are walked as they are written. -/
theorem walk?_names {root : Node} {t : Trail} (h : IsWay root t) (hdots : ".." ∉ t.names) :
    walk? root [] t.names = some t := by
  induction t with
  | nil => rfl
  | cons visit t ih =>
      rcases visit with ⟨name, c⟩
      rw [names_cons, List.mem_append, not_or, List.mem_singleton] at hdots
      have hname : ¬ (name == "..") = true := fun h => hdots.2 (beq_iff_eq.mp h).symm
      -- The last node comes last in the names, so it is one step more at the end.
      rw [names_cons, walk?_append, ih h.2 hdots.1, Option.bind_some, walk?,
        Node.isDirectory_of_child? _ c name h.1, if_neg (by decide), if_neg hname, h.1]
      rfl

end Trail

end SimTerm
