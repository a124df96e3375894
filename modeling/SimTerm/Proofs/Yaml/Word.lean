import SimTerm.Proofs.Text.Identifier
import SimTerm.Yaml.Token.Stream

/-!
# Plain Words

How a reader goes over words of letters, digits and low lines.

None of these characters means anything by itself, so that a word of them is a
plain scalar wherever one may start. It ends where the text ends, or at a colon
with a gap behind it, which makes a key of the word.

## Main definitions

* `Mark.after`: The place some characters further on.
* `Reader.inBlock`: A reader behind a colon in the outermost block.
* `keyTokens`, `firstTokens`: The tokens of a key.

## Theorems

* `readPlain_of_word`: A word is read as it is.
* `readToken_of_word`: A reader at a word reads a plain scalar.
* `readToken_of_key`, `readToken_of_value`: What that comes to.
* `readColon_of_key`: What makes a key of a word goes in front of it.
* `next_of`: A step of a reader.
* `next_of_key`, `readAll_of_first_key`, `readAll_of_further_key`: The steps at a key.
-/

namespace SimTerm

namespace Yaml

open Text (isIdentifierTail)

/-! ### Characters -/

section

variable {c : Char} (hc : isIdentifierTail c = true)

include hc

theorem beq_of_isIdentifierTail {d : Char} (hd : isIdentifierTail d = false) :
    (c == d) = false := by
  refine beq_eq_false_iff_ne.mpr fun heq => ?_
  rw [heq, hd] at hc
  exact absurd hc Bool.false_ne_true

theorem toNat_beq_of_isIdentifierTail {n : Nat} (hn : 0x80 ≤ n) : (c.toNat == n) = false := by
  have hrange := Text.toNat_of_isIdentifierTail c hc
  exact beq_eq_false_iff_ne.mpr (by omega)

theorem isBreak_of_isIdentifierTail : isBreak c = false := by
  have hbeq {d : Char} := beq_of_isIdentifierTail hc (d := d)
  have htoNat {n : Nat} := toNat_beq_of_isIdentifierTail hc (n := n)
  rw [isBreak, hbeq (by decide), hbeq (by decide), htoNat (by decide), htoNat (by decide),
    htoNat (by decide)]
  rfl

theorem isGap_of_isIdentifierTail : isGap c = false := by
  have hbeq {d : Char} := beq_of_isIdentifierTail hc (d := d)
  rw [isGap, isSpaceOrEnd, isBreakOrEnd, isBreak_of_isIdentifierTail hc, hbeq (by decide),
    hbeq (by decide), hbeq (by decide)]
  rfl

theorem stopsPlain_of_isIdentifierTail (next : Char) : stopsPlain false c next = false := by
  rw [stopsPlain, isGap_of_isIdentifierTail hc, beq_of_isIdentifierTail hc (by decide)]
  rfl

theorem step_of_isIdentifierTail (m : Mark) (cs : List Char) :
    Cursor.step m c cs = ⟨m.index + 1, m.line, m.column + 1⟩ := by
  rw [Cursor.step, isBreak_of_isIdentifierTail hc, toNat_beq_of_isIdentifierTail hc (by decide)]
  rfl

end

/-! ### Words -/

/-- The place some characters further on in a line. -/
def Mark.after (m : Mark) (n : Nat) : Mark := ⟨m.index + n, m.line, m.column + n⟩

theorem Mark.after_one_after (m : Mark) (n : Nat) : (m.after 1).after n = m.after (n + 1) := by
  simp only [Mark.after, Nat.add_assoc, Nat.add_comm 1]

section

variable {word : List Char} (hword : ∀ c ∈ word, isIdentifierTail c = true) (rest : List Char)

include hword

theorem plainRun_of_word : plainRun false (word ++ rest) = word ++ plainRun false rest := by
  induction word with
  | nil => rfl
  | cons c cs ih =>
      have hcs := ih fun d hd => hword d (List.mem_cons_of_mem c hd)
      rw [List.cons_append, plainRun, stopsPlain_of_isIdentifierTail (hword c List.mem_cons_self),
        hcs]
      rfl

theorem skip_of_word (m : Mark) :
    (⟨word ++ rest, m⟩ : Cursor).skip word.length = ⟨rest, m.after word.length⟩ := by
  induction word generalizing m with
  | nil => rfl
  | cons c cs ih =>
      have hstep : (⟨c :: cs ++ rest, m⟩ : Cursor).advance = ⟨cs ++ rest, m.after 1⟩ :=
        congrArg (Cursor.mk _) (step_of_isIdentifierTail (hword c List.mem_cons_self) m _)
      rw [List.length_cons, Cursor.skip, hstep, ih fun d hd => hword d (List.mem_cons_of_mem c hd),
        Mark.after_one_after]

/-- A word is read as it is, up to where a plain scalar ends without a gap. -/
theorem readPlain_of_word (hne : word ≠ []) (m : Mark) (indent : Int)
    (hstop : plainRun false rest = []) (hgap : ∀ m, plainGap ⟨rest, m⟩ = ⟨[], ⟨rest, m⟩, false⟩) :
    readPlain false indent ⟨word ++ rest, m⟩ =
      ⟨word, m.after word.length, ⟨rest, m.after word.length⟩, false⟩ := by
  have hrun : plainRun false (word ++ rest) = word := by
    rw [plainRun_of_word hword rest, hstop, List.append_nil]
  obtain ⟨c, cs, rfl⟩ := List.exists_cons_of_ne_nil hne
  have hcomment : ((⟨c :: cs ++ rest, m⟩ : Cursor).peek == '#') = false :=
    beq_of_isIdentifierTail (hword c List.mem_cons_self) (by decide)
  rw [readPlain, plainParts]
  simp only [hcomment, hrun, skip_of_word hword, hgap]
  rfl

end

/-! ### Tokens -/

theorem readToken_of_word {r : Reader} (hc : isIdentifierTail r.cursor.peek = true) :
    r.readToken = r.readPlainScalar := by
  have hindicator : Reader.indicators.contains r.cursor.peek = false := by
    have hall : Reader.indicators.all (fun d => !isIdentifierTail d) = true := by decide
    rw [List.contains_eq_mem, decide_eq_false_iff_not]
    intro hmem
    have hnot := List.all_eq_true.mp hall _ hmem
    rw [hc] at hnot
    exact absurd hnot Bool.false_ne_true
  have hplain : r.startsPlain = true := by
    rw [Reader.startsPlain, isGap_of_isIdentifierTail hc, hindicator]
    rfl
  have hbeq {d : Char} := beq_of_isIdentifierTail hc (d := d)
  -- Every other token starts with a character that is in no word.
  simp (disch := decide) only [Reader.readToken, hbeq, Bool.false_and, Bool.false_eq_true,
    if_false, hplain, if_true]

section

variable {r : Reader} {word : List Char} {m : Mark} (hne : word ≠ [])
    (hword : ∀ c ∈ word, isIdentifierTail c = true) (hflow : r.flow = 0)

include hne hword

theorem isIdentifierTail_of_peek {rest : List Char} (hcursor : r.cursor = ⟨word ++ rest, m⟩) :
    isIdentifierTail r.cursor.peek = true := by
  obtain ⟨c, cs, rfl⟩ := List.exists_cons_of_ne_nil hne
  rw [hcursor]
  exact hword c List.mem_cons_self

include hflow

/-- A word in front of a colon may be a key. -/
theorem readToken_of_key {rest : List Char} (hcursor : r.cursor = ⟨word ++ ':' :: ' ' :: rest, m⟩)
    (hkeys : r.keys = []) (hallowed : r.keyAllowed = true) :
    r.readToken = .ok { r with
      cursor := ⟨':' :: ' ' :: rest, m.after word.length⟩
      tokens := r.tokens.push ⟨.scalar (String.ofList word) true, m, m.after word.length⟩
      keyAllowed := false
      keys := [(0, ⟨r.tokens.size, r.indent == m.column, m⟩)] } := by
  have hplain := readPlain_of_word hword (':' :: ' ' :: rest) hne m r.indent rfl fun _ => rfl
  have hnote : r.noteKey =
      .ok { r with keys := [(0, ⟨r.tokens.size, r.indent == m.column, m⟩)] } := by
    simp [Reader.noteKey, Reader.dropKey, Reader.inFlow, Reader.column, Reader.mark, hallowed,
      hkeys, hflow, hcursor]
  rw [readToken_of_word (isIdentifierTail_of_peek hne hword hcursor), Reader.readPlainScalar, hnote]
  simp [Except.map, Reader.push, Reader.inFlow, Reader.mark, hflow, hcursor, hplain]

/-- A word at the end of the text is a value. -/
theorem readToken_of_value (hcursor : r.cursor = ⟨word, m⟩) (hallowed : r.keyAllowed = false) :
    r.readToken = .ok { r with
      cursor := ⟨[], m.after word.length⟩
      tokens := r.tokens.push ⟨.scalar (String.ofList word) true, m, m.after word.length⟩ } := by
  have hplain := readPlain_of_word hword [] hne m r.indent rfl fun _ => rfl
  have hnote : r.noteKey = .ok r := by
    rw [Reader.noteKey, hallowed]
    rfl
  have hpeek := isIdentifierTail_of_peek hne hword (hcursor.trans (by rw [List.append_nil]))
  rw [List.append_nil] at hplain
  rw [readToken_of_word hpeek, Reader.readPlainScalar, hnote]
  simp [Except.map, Reader.push, Reader.inFlow, Reader.mark, hflow, hcursor, hplain, hallowed]

end

/-- A colon behind a key outside of brackets. -/
theorem readColon_of_key {r : Reader} {key : KeyStart} (hflow : r.flow = 0)
    (hkeys : r.keys = [(0, key)]) :
    r.readColon =
      let r := ({ r with keys := [] } : Reader).insert key.position .key key.mark
      let r :=
        match r.openBlock key.mark.column with
        | some r => r.insert key.position .blockMappingStart key.mark
        | none => r
      .ok ({ r with keyAllowed := false }.pushChars .value 1) := by
  simp only [Reader.readColon, hflow, hkeys, Reader.insert]
  rfl

/-! ### Steps -/

theorem next_of {r settled read : Reader} (hsettle : r.settle = .ok settled)
    (hread : settled.readToken = .ok read) (hstale : read.dropStale = .ok read) :
    r.next = .ok read := by
  delta Reader.next
  rw [hsettle]
  dsimp only
  rw [hread]
  exact hstale

theorem readAll_next {r r' : Reader} {fuel : Nat} (hf : r.finished = false)
    (h : r.next = .ok r') : r.readAll (fuel + 1) = r'.readAll fuel := by
  refine (if_neg (Bool.eq_false_iff.mp hf)).trans ?_
  rw [h]

theorem dropStale_of_fresh {r : Reader} (h : ∀ k ∈ r.keys, r.isStale k.2 = false) :
    r.dropStale = .ok r := by
  have hfind : r.keys.find? (fun k => r.isStale k.2 && k.2.required) = none := by
    refine List.find?_eq_none.mpr fun k hk => ?_
    rw [h k hk]
    exact Bool.false_ne_true
  have hfilter : r.keys.filter (fun k => !r.isStale k.2) = r.keys := by
    refine List.filter_eq_self.mpr fun k hk => ?_
    rw [h k hk]
    rfl
  rw [Reader.dropStale, hfind, hfilter]

/-- No block ends at its own column or behind it. -/
theorem unwindBlocks_of_le {column : Int} {r : Reader} (outer : List Int) (h : r.indent ≤ column) :
    Reader.unwindBlocks column outer r = r := by
  cases outer with
  | nil => rfl
  | cons o outer => exact if_neg (Int.not_lt.mpr h)

theorem dropSpaces_of_peek {k : Cursor} (h : (k.peek == ' ') = false) : k.dropSpaces = k := by
  rcases k with ⟨_ | ⟨c, cs⟩, m⟩
  · rfl
  · have hc : (c == ' ') = false := h
    have hrun : (c :: cs).takeWhile (· == ' ') = [] := by
      rw [List.takeWhile_cons, hc]
      rfl
    rw [Cursor.dropSpaces, Cursor.dropWhile, Cursor.takeWhile]
    dsimp only
    rw [hrun]
    rfl

section

variable {r : Reader}

theorem skipToToken_of_peek (hspace : (r.cursor.peek == ' ') = false)
    (hcomment : (r.cursor.peek == '#') = false) (hbreak : isBreak r.cursor.peek = false)
    (fuel : Nat) : Reader.skipToToken (fuel + 1) r = r := by
  have hgap : r.cursor.dropSpaces.dropComment = r.cursor := by
    rw [dropSpaces_of_peek hspace, Cursor.dropComment, hcomment]
    rfl
  simp only [Reader.skipToToken, hgap, hbreak]
  rfl

theorem unwind_of_le (hle : r.indent ≤ r.column) : r.unwind r.column = r := by
  rw [Reader.unwind, unwindBlocks_of_le _ hle]
  exact ite_self _

/-- A reader at a token stays there. -/
theorem settle_of_peek (hspace : (r.cursor.peek == ' ') = false)
    (hcomment : (r.cursor.peek == '#') = false) (hbreak : isBreak r.cursor.peek = false)
    (hkeys : ∀ k ∈ r.keys, r.isStale k.2 = false) (hle : r.indent ≤ r.column) :
    r.settle = .ok r := by
  rw [Reader.settle]
  simp only [skipToToken_of_peek hspace hcomment hbreak, dropStale_of_fresh hkeys, Except.map,
    unwind_of_le hle]

end

/-! ### Keys -/

/-- What goes in front of the last one becomes the last one but one. -/
theorem insertIdx_push {α : Type} (xs : Array α) (x y : α) :
    (xs.push x).insertIdxIfInBounds xs.size y = (xs.push y).push x := by
  have hsize : xs.size ≤ (xs.push x).size := by
    rw [Array.size_push]
    exact Nat.le_succ _
  rw [Array.insertIdxIfInBounds, dif_pos hsize]
  apply Array.ext
  · simp
  · intro i h₁ h₂
    rw [Array.getElem_insertIdx]
    grind

/-- A reader behind a colon in the outermost block, which is not indented. -/
def Reader.inBlock (cursor : Cursor) (tokens : Array Token) : Reader :=
  { cursor, tokens, indent := 0, outer := [-1], keyAllowed := false }

/-- The tokens of a key and the colon behind it. -/
def keyTokens (word : List Char) (m : Mark) : List Token :=
  let colon := m.after word.length
  [⟨.key, m, m⟩, ⟨.scalar (String.ofList word) true, m, colon⟩, ⟨.value, colon, colon.after 1⟩]

/-- The tokens of the first key of a document, which starts the outermost block. -/
def firstTokens (word : List Char) : List Token :=
  ⟨.blockMappingStart, ⟨0, 0, 0⟩, ⟨0, 0, 0⟩⟩ :: keyTokens word ⟨0, 0, 0⟩

section

variable {r : Reader} {word rest : List Char} {m : Mark} (hne : word ≠ [])
    (hword : ∀ c ∈ word, isIdentifierTail c = true)

include hne hword

/-- A word at the start of a further line may be a key. -/
theorem settle_of_line (hflow : r.flow = 0) (hcursor : r.cursor = ⟨'\n' :: (word ++ rest), m⟩)
    (hkeys : r.keys = []) (hindent : r.indent ≤ 0) :
    r.settle = .ok { r with
      cursor := ⟨word ++ rest, ⟨m.index + 1, m.line + 1, 0⟩⟩, keyAllowed := true } := by
  let line : Reader := { r with
    cursor := ⟨word ++ rest, ⟨m.index + 1, m.line + 1, 0⟩⟩, keyAllowed := true }
  have hpeek : isIdentifierTail line.cursor.peek = true :=
    isIdentifierTail_of_peek (r := line) hne hword rfl
  have hbeq {d : Char} := beq_of_isIdentifierTail hpeek (d := d)
  have hskip (fuel : Nat) : Reader.skipToToken (fuel + 2) r = line := by
    have hgap : r.cursor.dropSpaces.dropComment = ⟨'\n' :: (word ++ rest), m⟩ := by
      rw [hcursor]
      rfl
    have hbreak : (⟨'\n' :: (word ++ rest), m⟩ : Cursor).lineBreak.2 =
        ⟨word ++ rest, ⟨m.index + 1, m.line + 1, 0⟩⟩ := rfl
    have hallowed : (r.keyAllowed || !r.inFlow) = true := by
      rw [Reader.inFlow, hflow]
      exact Bool.or_true _
    rw [Reader.skipToToken, hgap, hbreak, hallowed]
    exact skipToToken_of_peek (r := line) (hbeq (by decide)) (hbeq (by decide))
      (isBreak_of_isIdentifierTail hpeek) fuel
  have hfresh : ∀ k ∈ line.keys, line.isStale k.2 = false := by
    rw [show line.keys = [] from hkeys]
    exact List.forall_mem_nil _
  have hlength : r.cursor.rest.length + 1 = (word ++ rest).length + 2 := by
    rw [hcursor]
    rfl
  rw [Reader.settle, hlength]
  simp only [hskip, dropStale_of_fresh hfresh, Except.map]
  exact congrArg Except.ok (unwind_of_le (r := line) hindent)

variable (hlength : word.length ≤ 1024)

include hlength

theorem next_of_key (hflow : r.flow = 0) (hcursor : r.cursor = ⟨word ++ ':' :: ' ' :: rest, m⟩)
    (hkeys : r.keys = []) (hallowed : r.keyAllowed = true) (hindent : r.indent ≤ m.column) :
    r.next = .ok { r with
      cursor := ⟨':' :: ' ' :: rest, m.after word.length⟩
      tokens := r.tokens.push ⟨.scalar (String.ofList word) true, m, m.after word.length⟩
      keyAllowed := false
      keys := [(0, ⟨r.tokens.size, r.indent == m.column, m⟩)] } := by
  have hpeek := isIdentifierTail_of_peek hne hword hcursor
  have hbeq {d : Char} := beq_of_isIdentifierTail hpeek (d := d)
  have hsettle : r.settle = .ok r := by
    refine settle_of_peek (hbeq (by decide)) (hbeq (by decide)) (isBreak_of_isIdentifierTail hpeek)
      ?_ ?_
    · rw [hkeys]
      exact List.forall_mem_nil _
    · rw [Reader.column, Reader.mark, hcursor]
      exact hindent
  refine next_of hsettle (readToken_of_key hne hword hflow hcursor hkeys hallowed)
    (dropStale_of_fresh fun k hk => ?_)
  cases List.mem_singleton.mp hk
  simp [Reader.isStale, Reader.mark, Mark.after, hlength]

/-- The first key of a document opens the outermost block. -/
theorem readAll_of_first_key (fuel : Nat) :
    ({ cursor := ⟨word ++ ':' :: ' ' :: rest, ⟨0, 0, 0⟩⟩ } : Reader).readAll (fuel + 2) =
      (Reader.inBlock ⟨' ' :: rest, (Mark.after ⟨0, 0, 0⟩ word.length).after 1⟩
        (firstTokens word).toArray).readAll fuel := by
  have hindent : (-1 : Int) ≤ 0 := by decide
  let atColon : Reader :=
    { cursor := ⟨':' :: ' ' :: rest, Mark.after ⟨0, 0, 0⟩ word.length⟩
      tokens := #[⟨.scalar (String.ofList word) true, ⟨0, 0, 0⟩, Mark.after ⟨0, 0, 0⟩ word.length⟩]
      keyAllowed := false, keys := [(0, ⟨0, false, ⟨0, 0, 0⟩⟩)] }
  have hkey : ({ cursor := ⟨word ++ ':' :: ' ' :: rest, ⟨0, 0, 0⟩⟩ } : Reader).next = .ok atColon :=
    next_of_key hne hword hlength rfl rfl rfl rfl hindent
  have hcolon : atColon.next =
      .ok (.inBlock ⟨' ' :: rest, (Mark.after ⟨0, 0, 0⟩ word.length).after 1⟩
        (firstTokens word).toArray) := by
    refine next_of (settle_of_peek rfl rfl rfl (fun k hk => ?_) ?_) ?_ rfl
    · cases List.mem_singleton.mp hk
      simp [Reader.isStale, atColon, Reader.mark, Mark.after, hlength]
    · exact Int.le_trans hindent (Int.natCast_nonneg _)
    · refine (readColon_of_key (r := atColon) rfl rfl).trans ?_
      simp [atColon, Reader.insert, Reader.openBlock, Reader.pushChars, Reader.push, Reader.inBlock,
        firstTokens, keyTokens]
      exact ⟨rfl, rfl, rfl⟩
  rw [readAll_next rfl hkey, readAll_next rfl hcolon]

/-- A key on a further line goes on with the outermost block. -/
theorem readAll_of_further_key (tokens : Array Token) (fuel : Nat) :
    (Reader.inBlock ⟨'\n' :: (word ++ ':' :: ' ' :: rest), m⟩ tokens).readAll (fuel + 2) =
      (Reader.inBlock ⟨' ' :: rest, (Mark.after ⟨m.index + 1, m.line + 1, 0⟩ word.length).after 1⟩
        (tokens ++ (keyTokens word ⟨m.index + 1, m.line + 1, 0⟩).toArray)).readAll fuel := by
  let start : Mark := ⟨m.index + 1, m.line + 1, 0⟩
  let atColon : Reader :=
    { Reader.inBlock ⟨':' :: ' ' :: rest, start.after word.length⟩
        (tokens.push ⟨.scalar (String.ofList word) true, start, start.after word.length⟩) with
      keys := [(0, ⟨tokens.size, true, start⟩)] }
  have hfresh : ∀ k ∈ atColon.keys, atColon.isStale k.2 = false := by
    intro k hk
    cases List.mem_singleton.mp hk
    simp [Reader.isStale, atColon, start, Reader.inBlock, Reader.mark, Mark.after, hlength]
  have hkey : (Reader.inBlock ⟨'\n' :: (word ++ ':' :: ' ' :: rest), m⟩ tokens).next =
      .ok atColon := by
    have hsettle := settle_of_line
      (r := .inBlock ⟨'\n' :: (word ++ ':' :: ' ' :: rest), m⟩ tokens) hne hword rfl rfl rfl
      (Int.le_refl 0)
    exact next_of hsettle (readToken_of_key hne hword rfl rfl rfl rfl) (dropStale_of_fresh hfresh)
  have hcolon : atColon.next = .ok (.inBlock ⟨' ' :: rest, (start.after word.length).after 1⟩
      (tokens ++ (keyTokens word start).toArray)) := by
    -- What makes a key of the word goes in front of it, behind all tokens of the lines before.
    have htokens : tokens ++ (keyTokens word start).toArray =
        (atColon.tokens.insertIdxIfInBounds tokens.size ⟨.key, start, start⟩).push
          ⟨.value, start.after word.length, (start.after word.length).after 1⟩ := by
      rw [show atColon.tokens = tokens.push _ from rfl, insertIdx_push]
      rfl
    refine next_of (settle_of_peek rfl rfl rfl hfresh (Int.natCast_nonneg _)) ?_ rfl
    rw [htokens]
    exact readColon_of_key (r := atColon) rfl rfl
  rw [readAll_next rfl hkey, readAll_next rfl hcolon]

end

end Yaml

end SimTerm
