import Mathlib.Algebra.Order.Ring.Int
import Mathlib.Data.List.TakeDrop
import SimTerm.Proofs.Yaml.Block
import SimTerm.Proofs.Yaml.Meeting
import SimTerm.Proofs.Yaml.Word

/-!
# Long Hexadecimal Numbers

Documents that write a number with many digits, read from their characters on.

A number with a base may have any number of digits, while one without a base may
not. So a row of the largest hexadecimal digit is a short way to write a number
that is too long to be shown. Two documents have it: one under its only key
(`nameText`) and one under its second key (`accentText`). They are read here for
every number of digits, since with as many as it takes they cannot be read by
working everything out.

The number stands at the end of a text, and what is in front of it does not depend
on it. So the reader is followed to the colon in front of the number, state by
state, and from there on both documents are alike: the number is the next token,
and then the outermost block ends (`readAll_number`).

## Main definitions

* `hexadecimal`: The largest number with some hexadecimal digits, as it is written.
* `nameText`, `accentText`: The documents.
* `longNumber`: A number that is too long to be shown.

## Theorems

* `plainTag_hexadecimal`, `wholeNumber_hexadecimal`: It is a number, and which one.
* `readAll_number`: The reader from the colon on.
* `Value.ofText_nameText`, `Value.ofText_accentText`: The values of the documents.
* `longNumber_too_long`: How many digits it takes.
-/

namespace SimTerm

namespace Yaml

/-- The largest number with some hexadecimal digits. -/
def hexadecimal (n : Nat) : List Char := '0' :: 'x' :: List.replicate n 'F'

/-! ### The number -/

theorem mem_hexadecimal {n : Nat} {c : Char} (h : c ∈ hexadecimal n) : c ∈ ['0', 'x', 'F'] := by
  simp only [hexadecimal, List.mem_cons] at h
  rcases h with rfl | rfl | h
  · decide
  · decide
  · rw [List.eq_of_mem_replicate h]
    decide

theorem forall_hexadecimal (n : Nat) {p : Char → Bool} (h : ['0', 'x', 'F'].all p = true) :
    ∀ c ∈ hexadecimal n, p c = true := fun c hc =>
  List.all_eq_true.mp h c (mem_hexadecimal hc)

/-- It is none of some words, none of which starts with a zero. -/
theorem not_isOneOf_hexadecimal (n : Nat) (words : List String)
    (h : words.all (fun w => w.toList.head? != some '0') = true) :
    isOneOf words (hexadecimal n) = false := by
  rw [isOneOf, List.contains_eq_mem, decide_eq_false_iff_not]
  intro hmem
  have hhead := List.all_eq_true.mp h _ hmem
  rw [String.toList_ofList] at hhead
  exact absurd hhead Bool.false_ne_true

theorem not_isFloat_hexadecimal (n : Nat) : isFloat (hexadecimal n) = false := by
  have hspan : (hexadecimal n).span (· != '.') = (hexadecimal n, []) := by
    have hall := forall_hexadecimal n (p := (· != '.')) (by decide)
    rw [List.span_eq_takeWhile_dropWhile, List.takeWhile_eq_self_iff.mpr hall,
      List.dropWhile_eq_nil_iff.mpr hall]
  have hpointed : isPointed (hexadecimal n) = false := by
    rw [isPointed, hspan]
    rfl
  have hsixties : isPointedSixties (hexadecimal n) = false := by
    rw [isPointedSixties, hspan]
  have hbody : dropSign (hexadecimal n) = hexadecimal n := rfl
  rw [isFloat, hbody, hpointed, hsixties, not_isOneOf_hexadecimal n _ (by decide),
    not_isOneOf_hexadecimal n _ (by decide)]
  · rfl
  · exact fun _ _ h => absurd (List.cons.inj h).1 (by decide)

theorem plainTag_hexadecimal (n : Nat) : plainTag (hexadecimal (n + 1)) = standardTag "int" := by
  have hbreak : dropFinalBreak (hexadecimal (n + 1)) = hexadecimal (n + 1) := by
    refine if_neg fun hlast => ?_
    have hmem := mem_hexadecimal (List.mem_of_getLast? (beq_iff_eq.mp hlast))
    exact absurd hmem (by decide)
  have hinteger : isInteger (hexadecimal (n + 1)) = true := by
    change allOf _ (List.replicate (n + 1) 'F') = true
    rw [allOf, List.replicate_succ, List.all_cons, List.all_replicate]
    simp
  rw [plainTag, hbreak, not_isOneOf_hexadecimal _ _ (by decide), not_isFloat_hexadecimal, hinteger]
  rfl

theorem scalarTag_hexadecimal (n : Nat) :
    scalarTag none (String.ofList (hexadecimal (n + 1))) true = standardTag "int" := by
  change plainTag (String.ofList (hexadecimal (n + 1))).toList = _
  rw [String.toList_ofList, plainTag_hexadecimal]

theorem foldDigits?_replicate (n k : Nat) :
    (List.replicate n 'F').foldlM (fun n c => (Text.baseDigit? 16 c).map (16 * n + ·)) k =
      some (16 ^ n * (k + 1) - 1) := by
  induction n generalizing k with
  | zero => simp
  | succ n ih =>
      have hdigit : Text.baseDigit? 16 'F' = some 15 := by decide
      have hpow : 16 ^ n * (16 * k + 15 + 1) = 16 ^ (n + 1) * (k + 1) := by
        rw [Nat.pow_succ, Nat.mul_assoc, Nat.mul_add_one 16 k]
      rw [List.replicate_succ, List.foldlM_cons, hdigit]
      simp only [Option.map_some, Option.bind_eq_bind, Option.bind_some, ih, hpow]

theorem readInteger?_replicate (n : Nat) :
    Text.readInteger? 16 (List.replicate (n + 1) 'F') = some ((16 ^ (n + 1) - 1 : Nat) : Int) := by
  have htrim : Text.trimNumber (List.replicate (n + 1) 'F') = List.replicate (n + 1) 'F' := by
    have hblank : Text.isNumberBlank 'F' = false := by decide
    rw [Text.trimNumber, List.replicate_succ, List.dropWhile_cons_of_neg (by rw [hblank]; decide),
      ← List.replicate_succ, List.reverse_replicate, List.replicate_succ,
      List.dropWhile_cons_of_neg (by rw [hblank]; decide), ← List.replicate_succ,
      List.reverse_replicate]
  have hmagnitude : Text.readMagnitude? 16 (List.replicate (n + 1) 'F') =
      some (16 ^ (n + 1) - 1) := by
    have hfold := foldDigits?_replicate (n + 1) 0
    rwa [Nat.zero_add, Nat.mul_one] at hfold
  rw [Text.readInteger?, htrim]
  -- There is no sign in front.
  split
  · case h_1 h => exact absurd (List.cons.inj h).1 (by decide)
  · case h_2 h => exact absurd (List.cons.inj h).1 (by decide)
  · rw [hmagnitude]
    rfl

theorem wholeNumber_hexadecimal (n : Nat) :
    wholeNumber (String.ofList (hexadecimal (n + 1))) = .ok ((16 ^ (n + 1) - 1 : Nat) : Int) := by
  have hlows : dropLows (hexadecimal (n + 1)) = hexadecimal (n + 1) :=
    List.filter_eq_self.mpr (forall_hexadecimal _ (by decide))
  have hmagnitude : wholeMagnitude (hexadecimal (n + 1)) =
      convert (Text.readInteger? 16 (List.replicate (n + 1) 'F')) := rfl
  have hsign : takeSign (hexadecimal (n + 1)) = .ok (false, hexadecimal (n + 1)) := rfl
  rw [wholeNumber, String.toList_ofList, hlows, hsign]
  simp only [bind, Except.bind, hmagnitude, readInteger?_replicate]
  rfl

/-! ### The end of a document -/

/-- The number as a token at a place. -/
def numberToken (n : Nat) (m : Mark) : Token :=
  ⟨.scalar (String.ofList (hexadecimal n)) true, m, m.after (hexadecimal n).length⟩

section

variable (n : Nat) (m : Mark) (tokens : Array Token)

theorem next_number :
    (Reader.inBlock ⟨' ' :: hexadecimal n, m⟩ tokens).next = .ok
      (.inBlock ⟨[], (m.after 1).after (hexadecimal n).length⟩
        (tokens.push (numberToken n (m.after 1)))) := by
  have hsettle : (Reader.inBlock ⟨' ' :: hexadecimal n, m⟩ tokens).settle =
      .ok (.inBlock ⟨hexadecimal n, m.after 1⟩ tokens) := by
    change Except.ok (Reader.unwindBlocks ((m.column + 1 : Nat) : Int) [-1]
      (.inBlock ⟨hexadecimal n, m.after 1⟩ tokens)) = _
    exact congrArg Except.ok (unwindBlocks_of_le [-1] (Int.natCast_nonneg _))
  have hread : (Reader.inBlock ⟨hexadecimal n, m.after 1⟩ tokens).readToken = .ok
      (.inBlock ⟨[], (m.after 1).after (hexadecimal n).length⟩
        (tokens.push (numberToken n (m.after 1)))) :=
    readToken_of_value (List.cons_ne_nil _ _) (forall_hexadecimal n (by decide)) rfl rfl rfl
  exact next_of hsettle hread rfl

/-- At the end of the text the outermost block ends. -/
theorem next_end :
    (Reader.inBlock ⟨[], m⟩ tokens).next = .ok
      { cursor := ⟨[], m⟩, tokens := (tokens.push ⟨.blockEnd, m, m⟩).push ⟨.streamEnd, m, m⟩
        keyAllowed := false, finished := true } := by
  have hsettle : (Reader.inBlock ⟨[], m⟩ tokens).settle = .ok (.inBlock ⟨[], m⟩ tokens) := by
    change Except.ok (Reader.unwindBlocks m.column [-1] (.inBlock ⟨[], m⟩ tokens)) = _
    exact congrArg Except.ok (unwindBlocks_of_le [-1] (Int.natCast_nonneg _))
  have hread : (Reader.inBlock ⟨[], m⟩ tokens).readToken = .ok
      { cursor := ⟨[], m⟩, tokens := (tokens.push ⟨.blockEnd, m, m⟩).push ⟨.streamEnd, m, m⟩
        keyAllowed := false, finished := true } := rfl
  exact next_of hsettle hread rfl

/-- The tokens from the number on. -/
def numberTokens : List Token :=
  let stop := m.after (hexadecimal n).length
  [numberToken n m, ⟨.blockEnd, stop, stop⟩, ⟨.streamEnd, stop, stop⟩]

theorem readAll_number (fuel : Nat) :
    (Reader.inBlock ⟨' ' :: hexadecimal n, m⟩ tokens).readAll (fuel + 3) =
      ⟨tokens.toList ++ numberTokens n (m.after 1), none⟩ := by
  rw [readAll_next rfl (next_number n m tokens), readAll_next rfl (next_end _ _)]
  change (⟨_, none⟩ : TokenStream) = _
  simp [numberTokens]

end

/-- The tokens of a text, all of whose characters are allowed. -/
theorem tokens_of_number {lead : List Char} (n : Nat) (hlead : lead.all isAllowed = true)
    (hstart : Cursor.atStart (lead ++ hexadecimal n) = ⟨lead ++ hexadecimal n, ⟨0, 0, 0⟩⟩) :
    TokenStream.ofText (lead ++ hexadecimal n) =
      Reader.readAll (n + lead.length + 4) { cursor := ⟨lead ++ hexadecimal n, ⟨0, 0, 0⟩⟩ } := by
  have hallowed : (lead ++ hexadecimal n).findIdx? (fun c => !isAllowed c) = none := by
    refine List.findIdx?_eq_none_iff.mpr fun c hc => ?_
    have hc : isAllowed c = true := by
      rcases List.mem_append.mp hc with hlead' | hnumber
      · exact List.all_eq_true.mp hlead c hlead'
      · exact forall_hexadecimal n (by decide) c hnumber
    rw [hc]
    rfl
  have hlength : (lead ++ hexadecimal n).length + 2 = n + lead.length + 4 := by
    rw [List.length_append, hexadecimal, List.length_cons, List.length_cons, List.length_replicate]
    omega
  unfold TokenStream.ofText
  rw [hallowed]
  dsimp only
  rw [hlength, hstart]

/-- What is known of the assembly gives the value of the outermost node. -/
theorem Graph.value_of_meet {g : Graph} {s : Assembly}
    (h : (do meet g.root; fillAll (g.nodes.size + 1) : Assemble Unit)
      ⟨g.nodes, Array.replicate g.nodes.size none, []⟩ = .ok ((), s)) :
    g.value = .ok (((List.range (lateCount s.cells g.finished + recordDepth)).foldl
      (fun values _ => valueRound s.cells g.finished values)
      (s.cells.mapIdx (fun id c => c.elim Value.null (Cell.outline id)))).getD g.root .null) := by
  unfold Graph.value
  dsimp only
  rw [h]

/-! ### Under the only key -/

/-- The only key. -/
def nameKey : List Char := ['n', 'a', 'm', 'e']

/-- A document with the number under its only key. -/
def nameText (n : Nat) : List Char := nameKey ++ ':' :: ' ' :: hexadecimal n

/-- The nodes of the document. -/
def nameGraph (number : String) : Graph :=
  ⟨#[⟨standardTag "map", .mapping [(1, 2)], ⟨0, 0, 0⟩⟩,
      ⟨standardTag "str", .scalar (String.ofList nameKey), ⟨0, 0, 0⟩⟩,
      ⟨standardTag "int", .scalar number, ⟨6, 0, 6⟩⟩], [1, 2, 0], 0⟩

theorem tokens_nameText (n : Nat) :
    TokenStream.ofText (nameText n) = ⟨firstTokens nameKey ++ numberTokens n ⟨6, 0, 6⟩, none⟩ := by
  have hne : nameKey ≠ [] := List.cons_ne_nil _ _
  have hword : ∀ c ∈ nameKey, Text.isIdentifierTail c = true := List.all_eq_true.mp (by decide)
  have hallowed : (nameKey ++ [':', ' ']).all isAllowed = true := by decide
  have htokens := tokens_of_number n hallowed rfl
  rw [List.append_assoc] at htokens
  refine htokens.trans ?_
  refine (readAll_of_first_key hne hword (by decide) (n + 8)).trans ?_
  exact readAll_number n _ _ (n + 5)

theorem Graph.ofText_nameText (n : Nat) :
    Graph.ofText (nameText (n + 1)) =
      .ok (some (nameGraph (String.ofList (hexadecimal (n + 1))))) := by
  have hkey : scalarTag none (String.ofList nameKey) true = standardTag "str" := by decide
  have hgraph := Graph.ofText_of_block (tokens_nameText (n + 1))
    ((composeBlockMapping_entry 67 rfl rfl (composeNode_scalar rfl 67 true true) []).trans
      (composeBlockMapping_end rfl 69 [(1, 2)]))
  rw [hgraph]
  simp [nameGraph, hkey, scalarTag_hexadecimal]

theorem value_nameGraph {number : String} {i : Int} (hi : wholeNumber number = .ok i) :
    (nameGraph number).value = .ok (.mapping 0 [(.text "name", .int i)]) := by
  let state (root name last : Option Cell) (waiting : List Nat) : Assembly :=
    ⟨(nameGraph number).nodes, #[root, name, last], waiting⟩
  let name : Option Cell := some (.leaf (.text "name"))
  let last : Option Cell := some (.leaf (.int i))
  have hopens : meet 0 (state none none none []) =
      .ok ((), state (some (.opened .mapping)) none none [0]) :=
    meet_opens rfl (show Collection.ofTag? (standardTag "map") = some .mapping by decide)
  have hname : meet 1 (state (some (.opened .mapping)) none none []) =
      .ok ((), state (some (.opened .mapping)) name none []) := meet_text rfl rfl
  have hlast : meet 2 (state (some (.opened .mapping)) name none []) =
      .ok ((), state (some (.opened .mapping)) name last []) := meet_int rfl rfl hi
  have hfill : fill 0 .mapping (state (some (.opened .mapping)) none none []) =
      .ok ((), state (some (.mapping [(1, 2)])) name last []) :=
    fill_of_texts rfl (List.forall_mem_singleton.mpr rfl) (.cons hname rfl hlast (.nil _))
  have hall : (do meet 0; fillAll 4 : Assemble Unit) (state none none none []) =
      .ok ((), state (some (.mapping [(1, 2)])) name last []) := by
    rw [run_bind hopens, fillAll_one rfl rfl hfill, fillAll_done rfl]
  refine (Graph.value_of_meet hall).trans ?_
  simp [state, name, last, nameGraph, lateCount, recordDepth, valueRound, Cell.parts, Cell.value,
    distinct, setKey, List.range, List.range.loop, Array.count_replicate]

theorem Value.ofText_nameText (n : Nat) :
    Value.ofText (nameText (n + 1)) =
      .ok (.mapping 0 [(.text "name", .int (16 ^ (n + 1) - 1 : Nat))]) := by
  rw [Value.ofText, Graph.ofText_nameText]
  exact value_nameGraph (wholeNumber_hexadecimal n)

/-! ### Under the second key -/

/-- The first key. -/
def groupsKey : List Char :=
  ['t', 'e', 'r', 'm', 'i', 'n', 'a', 'l', '_', 'c', 'o', 'l', 'o', 'r', 's']

/-- The second key. -/
def accentKey : List Char := ['a', 'c', 'c', 'e', 'n', 't']

/-- The second line of a document with the number under its second key. -/
def accentLine (n : Nat) : List Char := accentKey ++ ':' :: ' ' :: hexadecimal n

/-- A document with nothing under its first key and the number under its second one. -/
def accentText (n : Nat) : List Char :=
  groupsKey ++ ':' :: ' ' :: '\x7b' :: '\x7d' :: '\n' :: accentLine n

/-- The tokens up to the opening brace. -/
def openTokens : List Token :=
  firstTokens groupsKey ++ [⟨.flowMappingStart, ⟨17, 0, 17⟩, ⟨18, 0, 18⟩⟩]

/-- The tokens of the first line. -/
def lineTokens : List Token := openTokens ++ [⟨.flowMappingEnd, ⟨18, 0, 18⟩, ⟨19, 0, 19⟩⟩]

/-- The nodes of the document. -/
def accentGraph (number : String) : Graph :=
  ⟨#[⟨standardTag "map", .mapping [(1, 2), (3, 4)], ⟨0, 0, 0⟩⟩,
      ⟨standardTag "str", .scalar (String.ofList groupsKey), ⟨0, 0, 0⟩⟩,
      ⟨standardTag "map", .mapping [], ⟨17, 0, 17⟩⟩,
      ⟨standardTag "str", .scalar (String.ofList accentKey), ⟨20, 1, 0⟩⟩,
      ⟨standardTag "int", .scalar number, ⟨28, 1, 8⟩⟩], [1, 2, 3, 4, 0], 0⟩

/-- Between the colons there is nothing but the end of the first line and the second key. -/
theorem readAll_accentLine (n fuel : Nat) :
    (Reader.inBlock ⟨' ' :: '\x7b' :: '\x7d' :: '\n' :: accentLine n, ⟨16, 0, 16⟩⟩
        (firstTokens groupsKey).toArray).readAll (fuel + 4) =
      (Reader.inBlock ⟨' ' :: hexadecimal n, ⟨27, 1, 7⟩⟩
        (lineTokens ++ keyTokens accentKey ⟨20, 1, 0⟩).toArray).readAll fuel := by
  let opened : Reader :=
    { Reader.inBlock ⟨'\x7d' :: '\n' :: accentLine n, ⟨18, 0, 18⟩⟩ openTokens.toArray with
      flow := 1, keyAllowed := true }
  have hopen : (Reader.inBlock ⟨' ' :: '\x7b' :: '\x7d' :: '\n' :: accentLine n, ⟨16, 0, 16⟩⟩
      (firstTokens groupsKey).toArray).next = .ok opened := by
    have hread : (Reader.inBlock ⟨'\x7b' :: '\x7d' :: '\n' :: accentLine n, ⟨17, 0, 17⟩⟩
        (firstTokens groupsKey).toArray).readToken = .ok opened := rfl
    exact next_of rfl hread rfl
  have hclose : opened.next =
      .ok (.inBlock ⟨'\n' :: accentLine n, ⟨19, 0, 19⟩⟩ lineTokens.toArray) := by
    have hread : opened.readToken =
        .ok (.inBlock ⟨'\n' :: accentLine n, ⟨19, 0, 19⟩⟩ lineTokens.toArray) := rfl
    exact next_of rfl hread rfl
  have hne : accentKey ≠ [] := List.cons_ne_nil _ _
  have hword : ∀ c ∈ accentKey, Text.isIdentifierTail c = true := List.all_eq_true.mp (by decide)
  rw [readAll_next rfl hopen, readAll_next rfl hclose]
  exact readAll_of_further_key hne hword (by decide) lineTokens.toArray fuel

theorem tokens_accentText (n : Nat) :
    TokenStream.ofText (accentText n) =
      ⟨lineTokens ++ keyTokens accentKey ⟨20, 1, 0⟩ ++ numberTokens n ⟨28, 1, 8⟩, none⟩ := by
  have htext : accentText n = groupsKey ++ [':', ' ', '\x7b', '\x7d', '\n'] ++ accentKey ++
      [':', ' '] ++ hexadecimal n := by
    simp [accentText, accentLine]
  have hne : groupsKey ≠ [] := List.cons_ne_nil _ _
  have hword : ∀ c ∈ groupsKey, Text.isIdentifierTail c = true := List.all_eq_true.mp (by decide)
  have hallowed : (groupsKey ++ [':', ' ', '\x7b', '\x7d', '\n'] ++ accentKey ++ [':', ' ']).all
      isAllowed = true := by
    decide
  have htokens := tokens_of_number n hallowed rfl
  rw [← htext] at htokens
  have hmark : (Mark.after ⟨0, 0, 0⟩ groupsKey.length).after 1 = ⟨16, 0, 16⟩ := rfl
  rw [htokens, accentText]
  change Reader.readAll (n + 23 + 3 + 4 + 2) _ = _
  rw [readAll_of_first_key hne hword (by decide), hmark, readAll_accentLine,
    readAll_number]
  rfl

theorem Graph.ofText_accentText (n : Nat) :
    Graph.ofText (accentText (n + 1)) =
      .ok (some (accentGraph (String.ofList (hexadecimal (n + 1))))) := by
  have hgroups : scalarTag none (String.ofList groupsKey) true = standardTag "str" := by decide
  have haccent : scalarTag none (String.ofList accentKey) true = standardTag "str" := by decide
  have hgraph := Graph.ofText_of_block (tokens_accentText (n + 1))
    ((composeBlockMapping_entry 107 rfl rfl
        (composeNode_braces rfl (show 1 < maxNesting by decide) 106 true true) []).trans
      ((composeBlockMapping_entry 106 rfl rfl (composeNode_scalar rfl 106 true true)
        [(1, 2)]).trans (composeBlockMapping_end rfl 108 [(3, 4), (1, 2)])))
  rw [hgraph]
  simp [accentGraph, hgroups, haccent, scalarTag_hexadecimal]

theorem value_accentGraph {number : String} {i : Int} (hi : wholeNumber number = .ok i) :
    (accentGraph number).value = .ok (.mapping 0 [(.text "terminal_colors", .mapping 2 []),
      (.text "accent", .int i)]) := by
  -- Nodes are met from the first one on, but a collection is filled when all in it are met.
  let state (root groups braces accent last : Option Cell) (waiting : List Nat) : Assembly :=
    ⟨(accentGraph number).nodes, #[root, groups, braces, accent, last], waiting⟩
  let groups : Option Cell := some (.leaf (.text "terminal_colors"))
  let accent : Option Cell := some (.leaf (.text "accent"))
  let last : Option Cell := some (.leaf (.int i))
  let filled : Option Cell := some (.mapping [(1, 2), (3, 4)])
  have hmap : Collection.ofTag? (standardTag "map") = some .mapping := by decide
  have hopens : meet 0 (state none none none none none []) =
      .ok ((), state (some (.opened .mapping)) none none none none [0]) := meet_opens rfl hmap
  have hgroups : meet 1 (state (some (.opened .mapping)) none none none none []) =
      .ok ((), state (some (.opened .mapping)) groups none none none []) := meet_text rfl rfl
  have hbraces : meet 2 (state (some (.opened .mapping)) groups none none none []) =
      .ok ((), state (some (.opened .mapping)) groups (some (.opened .mapping)) none none [2]) :=
    meet_opens rfl hmap
  have haccent :
      meet 3 (state (some (.opened .mapping)) groups (some (.opened .mapping)) none none [2]) =
      .ok ((), state (some (.opened .mapping)) groups (some (.opened .mapping)) accent none [2]) :=
    meet_text rfl rfl
  have hlast :
      meet 4 (state (some (.opened .mapping)) groups (some (.opened .mapping)) accent none [2]) =
      .ok ((), state (some (.opened .mapping)) groups (some (.opened .mapping)) accent last [2]) :=
    meet_int rfl rfl hi
  have hfill : fill 0 .mapping (state (some (.opened .mapping)) none none none none []) =
      .ok ((), state filled groups (some (.opened .mapping)) accent last [2]) :=
    fill_of_texts rfl (List.forall_mem_cons.mpr ⟨rfl, List.forall_mem_singleton.mpr rfl⟩)
      (.cons hgroups rfl hbraces (.cons haccent rfl hlast (.nil _)))
  have hempty : fill 2 .mapping (state filled groups (some (.opened .mapping)) accent last []) =
      .ok ((), state filled groups (some (.mapping [])) accent last []) :=
    fill_of_texts rfl (List.forall_mem_nil _) (.nil _)
  have hall : (do meet 0; fillAll 6 : Assemble Unit) (state none none none none none []) =
      .ok ((), state filled groups (some (.mapping [])) accent last []) := by
    rw [run_bind hopens, fillAll_one rfl rfl hfill, fillAll_one rfl rfl hempty, fillAll_done rfl]
  refine (Graph.value_of_meet hall).trans ?_
  simp [state, groups, accent, last, filled, accentGraph, lateCount, recordDepth, valueRound,
    Cell.parts, Cell.value, distinct, setKey, Value.sameKey, Value.keyNumber?, List.range,
    List.range.loop, Array.count_replicate]

theorem Value.ofText_accentText (n : Nat) :
    Value.ofText (accentText (n + 1)) = .ok (.mapping 0 [(.text "terminal_colors", .mapping 2 []),
      (.text "accent", .int (16 ^ (n + 1) - 1 : Nat))]) := by
  rw [Value.ofText, Graph.ofText_accentText]
  exact value_accentGraph (wholeNumber_hexadecimal n)

/-! ### Too many digits -/

/-- The largest number with 3572 hexadecimal digits. -/
def longNumber : Int := (16 ^ 3572 - 1 : Nat)

/-- It has two decimal digits more than can be shown. -/
theorem longNumber_too_long : ¬ longNumber.natAbs < 10 ^ Text.maxDigits := by
  rw [longNumber, Int.natAbs_natCast]
  decide +kernel

theorem Value.ofText_longName :
    Value.ofText (nameText 3572) = .ok (.mapping 0 [(.text "name", .int longNumber)]) := by
  have h := Value.ofText_nameText 3571
  simp only [Nat.reduceAdd] at h
  rw [h, longNumber]

theorem Value.ofText_longAccent :
    Value.ofText (accentText 3572) = .ok (.mapping 0 [(.text "terminal_colors", .mapping 2 []),
      (.text "accent", .int longNumber)]) := by
  have h := Value.ofText_accentText 3571
  simp only [Nat.reduceAdd] at h
  rw [h, longNumber]

end Yaml

end SimTerm
