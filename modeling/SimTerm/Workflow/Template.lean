import SimTerm.Text.Blank
/-!
# Command Templates

A template is a text with placeholders: a name between two opening and two closing braces,
where the name has at least one character and no brace.

## Main definitions

* `TemplatePart`: A character or a placeholder.
* `TemplatePart.ofText`: The parts of a template.
* `TemplatePart.source`: A part as the template has it.
-/

namespace SimTerm

/-- A part of a template. -/
inductive TemplatePart where
  /-- A character that stands for itself. -/
  | character (c : Char)
  /-- A placeholder, with what stands between its braces. -/
  | placeholder (inner : List Char)
deriving Repr, DecidableEq

namespace TemplatePart

/-- Whether a character is no brace. -/
def isPlain (c : Char) : Bool := c != '\x7b' && c != '\x7d'

/-- The inner part of a placeholder and what comes after it, from its opening braces on. -/
def placeholder? : List Char → Option (List Char × List Char)
  | '\x7b' :: '\x7b' :: cs =>
    if (cs.takeWhile isPlain).isEmpty then none
    else
      match cs.dropWhile isPlain with
      | '\x7d' :: '\x7d' :: rest => some (cs.takeWhile isPlain, rest)
      | _ => none
  | _ => none

/-- What comes after a placeholder is shorter than the text that starts with it. -/
theorem length_lt_of_placeholder? {cs inner rest : List Char}
    (h : placeholder? cs = some (inner, rest)) : rest.length < cs.length := by
  unfold placeholder? at h
  split at h
  next tail =>
    split at h
    · cases h
    · split at h
      · rename_i after hrest
        have hle := (List.dropWhile_suffix isPlain (l := tail)).length_le
        rw [hrest] at hle
        simp only [Option.some.injEq, Prod.mk.injEq] at h
        rw [← h.2]
        simp only [List.length_cons] at hle ⊢
        omega
      · cases h
  · cases h

/-- The parts of a template, from left to right. -/
def ofText (cs : List Char) : List TemplatePart :=
  match cs with
  | [] => []
  | c :: tail =>
    match h : placeholder? (c :: tail) with
    | some (inner, rest) =>
      have := length_lt_of_placeholder? h
      .placeholder inner :: ofText rest
    | none => .character c :: ofText tail
termination_by cs.length
decreasing_by
  · assumption
  · exact Nat.lt_succ_self tail.length

/-- A part as the template has it. -/
def source : TemplatePart → List Char
  | .character c => [c]
  | .placeholder inner => ['\x7b', '\x7b'] ++ inner ++ ['\x7d', '\x7d']

end TemplatePart

end SimTerm
