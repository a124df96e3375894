import Mathlib.Logic.Relation
import SimTerm.Yaml.Document

/-!
# Keys that Lead On

How far the keys of a document lead.

From a mapping a merge key leads to a mapping, or to the mappings in a row, and
a value key leads to what has the text of the mapping. Both are relations between
nodes, and what matters of a relation is how many steps it takes in a row from
some place (`Leads`). A relation that comes back to a place takes any number.

While a document is assembled the mappings in it grow, so that a value key of
one becomes a value key of another. It only comes to mappings that take it in,
maybe through others. So the entries that a mapping can ever have are known from
the nodes as they were composed (`Inherits`), and with them the value keys.

## Main definitions

* `Leads`: Some steps in a row can be taken.
* `Merges`: A mapping takes in another one.
* `Inherits`: An entry can come to a mapping.
* `Refers`: A mapping can have the text of another node.
* `Winds`: Keys lead on further than they are followed.

## Theorems

* `Leads.of_transGen`: What leads to a place from which steps can be taken.
-/

namespace SimTerm

namespace Yaml

/-- Some number of steps in a row can be taken from a place. -/
inductive Leads (r : Nat → Nat → Prop) : Nat → Nat → Prop where
  | here (a : Nat) : Leads r 0 a
  | step (n a b : Nat) (h : r a b) (rest : Leads r n b) : Leads r (n + 1) a

section

variable {r : Nat → Nat → Prop} {n a b : Nat}

theorem Leads.shorten (h : Leads r (n + 1) a) : Leads r n a := by
  induction n generalizing a with
  | zero => exact .here a
  | succ n ih =>
      cases h with
      | step _ _ b hstep rest => exact .step n a b hstep (ih rest)

/-- A place that leads to another one leads at least one step further. -/
theorem Leads.of_transGen (hab : Relation.TransGen r a b) (h : Leads r n b) :
    Leads r (n + 1) a := by
  induction hab using Relation.TransGen.head_induction_on with
  | single hstep => exact .step n _ b hstep h
  | head hstep _ ih => exact .step n _ _ hstep ih.shorten

end

variable (nodes : Array Node)

/-- The entries of the mapping at a node. -/
def entriesAt (id : Nat) : List (Nat × Nat) := (nodes.getD id default).content.entries

/-- The tag of a node. -/
def tagAt (id : Nat) : String := (nodes.getD id default).tag

/-- A mapping takes in another one, which it has under a merge key or in a row there. -/
def Merges (a b : Nat) : Prop :=
  ∃ key source, (key, source) ∈ entriesAt nodes a ∧ tagAt nodes key = standardTag "merge" ∧
    (b = source ∨ b ∈ (nodes.getD source default).content.items)

/-- An entry is that of a mapping itself or of one that it takes in, maybe through
    others. -/
def Inherits (a : Nat) (e : Nat × Nat) : Prop :=
  ∃ b, Relation.ReflTransGen (Merges nodes) a b ∧ e ∈ entriesAt nodes b

/-- A mapping has a node under a value key, or can have it there when others were
    taken in. -/
def Refers (a b : Nat) : Prop :=
  ∃ key, Inherits nodes a (key, b) ∧ tagAt nodes key = standardTag "value"

/-- Merge keys, or value keys from where a text is asked for, lead on further than
    they are followed. -/
inductive Winds : Prop where
  | merges (a : Nat) (h : Leads (Merges nodes) maxSteps a)
  | values (a : Nat) (htag : tagAt nodes a ∈ standardTag "value" :: scalarTags)
      (h : Leads (Refers nodes) maxSteps a)

variable {nodes}

theorem Inherits.of_transGen {a b : Nat} {e : Nat × Nat}
    (hab : Relation.TransGen (Merges nodes) a b) (h : Inherits nodes b e) :
    Inherits nodes a e := by
  rcases h with ⟨c, hbc, he⟩
  exact ⟨c, hab.to_reflTransGen.trans hbc, he⟩

/-- Where a merge key that can come to a mapping leads to, the mapping leads to. -/
theorem Inherits.merges {a b key source : Nat} (h : Inherits nodes a (key, source))
    (htag : tagAt nodes key = standardTag "merge")
    (hb : b = source ∨ b ∈ (nodes.getD source default).content.items) :
    Relation.TransGen (Merges nodes) a b := by
  rcases h with ⟨c, hac, he⟩
  exact .tail' hac ⟨key, source, he, htag, hb⟩

end Yaml

end SimTerm
