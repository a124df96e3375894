import SimTerm.Bounded
import SimTerm.Journal.Entry
/-!
# The Recent Entries

A buffer that keeps the most recent entries, and queries on it by level and by subsystem.

## Main definitions

* `takeRecent`: The last items of a list, counted from its end.
* `EntryBuffer`: The kept entries and their greatest number.
* `EntryBuffer.record`: Appends an entry and forgets the oldest ones.
* `EntryBuffer.query`: The most recent entries of a level and a subsystem.
-/

namespace SimTerm

/-- The last `n` items of a list; all of them for zero; all but the first `n` for `-n`. -/
def takeRecent {α : Type} (n : Int) (xs : List α) : List α :=
  if 0 < n then keepLast n.toNat xs else xs.drop (-n).toNat

/-- The most recent entries, oldest first. -/
structure EntryBuffer where
  /-- How many entries are kept; at most zero switches the trimming to a count of drops. -/
  capacity : Int := 5000
  /-- The kept entries, oldest first. -/
  entries : List Entry := []
deriving Repr, Inhabited

namespace EntryBuffer

/-- Appends an entry and forgets the oldest ones beyond the capacity. -/
def record (b : EntryBuffer) (e : Entry) : EntryBuffer :=
  let entries := b.entries ++ [e]
  if b.capacity < entries.length then { b with entries := takeRecent b.capacity entries }
  else { b with entries := entries }

/-- Whether a filter lets a text pass; an absent or empty filter lets everything pass. -/
def passes (filter : Option String) (actual : Option String) : Bool :=
  match filter with
  | none => true
  | some f => f.isEmpty || actual == some f

/-- The text of a subsystem, if it is a text. -/
def subsystemText (e : Entry) : Option String :=
  match e.subsystem with
  | some (.str s) => some s
  | _ => none

/-- The most recent entries of a level and a subsystem, at most `limit` of them. -/
def query (b : EntryBuffer) (level subsystem : Option String) (limit : Int) : List Entry :=
  takeRecent limit
    (b.entries.filter (fun e => passes level (some e.level) && passes subsystem (subsystemText e)))

/-- The buffer without its entries. -/
def clear (b : EntryBuffer) : EntryBuffer := { b with entries := [] }

end EntryBuffer

end SimTerm
