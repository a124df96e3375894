import SimTerm.Proofs.Style.Encoding

/-!
# Compound Sequences and Their Parts

A control sequence that sets attributes can have several tokens with semicolons
between them. It does what one sequence for each of the tokens does.

The numbers of a body are those of its tokens, and one fold over them is all that
a compound sequence does (`obey?_compound`). One sequence for each token does the
same fold, one step at a time (`obeyAll?_tokens`). A token without digits in front
has the number zero, so a stray semicolon clears all attributes, and then it does
not matter what they were.

This is about tokens whose numbers can be read. All numbers of a sequence are read
before the first of them takes effect, so one number with too many digits stops a
compound sequence as a whole, and of the parts only those from there on.

The texts have nothing in them but sequences, and `Layout.bare` is their layout. It
is a valid one for any bodies without letters, so an escape character or a bracket
inside of a token is part of the token and begins no sequence of its own.

## Main definitions

* `ControlSequence.text`: A control sequence as a text.
* `compound`: The sequence that sets attributes by some tokens.
* `Layout.bare`: The layout of control sequences with nothing between them.

## Theorems

* `applyCodes_of_zero_mem`: After a zero it does not matter what was set before.
* `render_bare`: A text of control sequences writes nothing.
* `render_compound`, `render_tokens`: The texts of a compound sequence and of its
  parts.
* `compound_like_parts`: The two leave the same pen.
-/

namespace SimTerm

/-- After a zero it does not matter what was set before. -/
theorem Style.applyCodes_of_zero_mem (s s' : Style) (ns : List Nat) (h : 0 ∈ ns) :
    s.applyCodes ns = s'.applyCodes ns := by
  rcases List.append_of_mem h with ⟨before, after, rfl⟩
  -- The zero makes the style plain, whatever came before it.
  have hplain : ∀ t : Style, t.applyCodes (before ++ 0 :: after) = plain.applyCodes after := by
    intro t
    rw [applyCodes_append]
    rfl
  rw [hplain s, hplain s']

/-- A control sequence as a text. -/
def ControlSequence.text (g : ControlSequence) : String := String.ofList g.chars

/-- The sequence that sets attributes by tokens. -/
def compound (tokens : List (List Char)) : ControlSequence := ⟨[';'].intercalate tokens, 'm'⟩

theorem compound_singleton (t : List Char) : compound [t] = ⟨t, 'm'⟩ := by
  rw [compound, List.intercalate_singleton]

theorem compound_isComplete (tokens : List (List Char)) (h : ∀ t ∈ tokens, IsToken t) :
    (compound tokens).IsComplete :=
  ⟨letterless_intercalate tokens (fun t ht => (h t ht).letterless), rfl⟩

/-! ### Texts of nothing but sequences -/

namespace Layout

/-- The layout of control sequences with nothing between them. -/
def bare : List ControlSequence → Layout
  | [] => .last [] none
  | g :: gs => .more [] g (bare gs)

theorem bare_isValid (gs : List ControlSequence) (h : ∀ g ∈ gs, g.IsComplete) :
    (bare gs).IsValid := by
  induction gs with
  | nil => exact (isValid_last_none []).mpr not_hasIntroducer_nil
  | cons g gs ih =>
      have hrest := ih (fun g' hg' => h g' (List.mem_cons_of_mem g hg'))
      exact (isValid_more [] g _).mpr ⟨not_hasIntroducer_nil, h g List.mem_cons_self, hrest⟩

theorem bare_chars (gs : List ControlSequence) :
    (bare gs).chars = (String.join (gs.map ControlSequence.text)).toList := by
  induction gs with
  | nil => rw [bare, chars, List.map_nil, String.join_nil, String.toList_empty]
  | cons g gs ih =>
      rw [bare, chars, ih, List.map_cons, String.join_cons, String.toList_append,
        ControlSequence.text, String.toList_ofList, List.nil_append]

/-- Where all sequences can be read, nothing comes of them but the pen. -/
theorem renderPieces_bare (gs : List ControlSequence) (p p' : Pen) (h : p.obeyAll? gs = some p') :
    p.renderPieces (bare gs).pieces = { pen := p' } := by
  induction gs generalizing p with
  | nil =>
      rw [Pen.obeyAll?_nil, Option.some.injEq] at h
      rw [h]
      rfl
  | cons g gs ih =>
      rw [Pen.obeyAll?_cons] at h
      rcases Option.bind_eq_some_iff.mp h with ⟨q, hq, hrest⟩
      rw [bare, pieces, Piece.literal_nil, List.nil_append, Pen.renderPieces, hq]
      exact ih q hrest

end Layout

namespace Pen

theorem render_bare (p p' : Pen) (gs : List ControlSequence) (hgs : ∀ g ∈ gs, g.IsComplete)
    (h : p.obeyAll? gs = some p') :
    p.render (String.join (gs.map ControlSequence.text)) = { pen := p' } := by
  rw [p.render_of_divides (.bare gs) _ ⟨Layout.bare_isValid gs hgs, Layout.bare_chars gs⟩]
  exact Layout.renderPieces_bare gs p p' h

/-! ### What the sequences do -/

/-- All that a compound sequence does is to apply its numbers to the style. -/
theorem obey?_compound (p : Pen) (tokens : List (List Char)) (hne : tokens ≠ [])
    (h : ∀ t ∈ tokens, IsToken t) :
    p.obey? (compound tokens).body (compound tokens).final =
      some { p with style := p.style.applyCodes (tokens.map tokenValue) } := by
  rw [obey?, compound, parameters?_tokens tokens hne h]
  rfl

/-- With one token it applies one number. -/
theorem obey?_token (p : Pen) (t : List Char) (h : IsToken t) :
    p.obey? t 'm' = some { p with style := p.style.applyCode (tokenValue t) } := by
  have hone := p.obey?_compound [t] (List.cons_ne_nil t []) (List.forall_mem_singleton.mpr h)
  rw [compound_singleton] at hone
  exact hone

theorem obeyAll?_tokens (p : Pen) (tokens : List (List Char)) (h : ∀ t ∈ tokens, IsToken t) :
    p.obeyAll? (tokens.map (fun t => ⟨t, 'm'⟩)) =
      some { p with style := p.style.applyCodes (tokens.map tokenValue) } := by
  induction tokens generalizing p with
  | nil => exact p.obeyAll?_nil
  | cons t tokens ih =>
      rw [List.map_cons, obeyAll?_cons, p.obey?_token t (h t List.mem_cons_self), Option.bind_some,
        ih _ (fun u hu => h u (List.mem_cons_of_mem t hu))]
      rfl

theorem render_compound (p : Pen) (tokens : List (List Char)) (hne : tokens ≠ [])
    (h : ∀ t ∈ tokens, IsToken t) :
    p.render (compound tokens).text =
      { pen := { p with style := p.style.applyCodes (tokens.map tokenValue) } } := by
  have hobey : p.obeyAll? [compound tokens] =
      some { p with style := p.style.applyCodes (tokens.map tokenValue) } := by
    rw [obeyAll?_cons, p.obey?_compound tokens hne h, Option.bind_some, obeyAll?_nil]
  have hrender := p.render_bare _ [compound tokens]
    (List.forall_mem_singleton.mpr (compound_isComplete tokens h)) hobey
  rw [List.map_singleton, String.join_cons, String.join_nil, String.append_empty] at hrender
  exact hrender

theorem render_token (p : Pen) (t : List Char) (h : IsToken t) :
    p.render (ControlSequence.text ⟨t, 'm'⟩) =
      { pen := { p with style := p.style.applyCode (tokenValue t) } } := by
  have hone := p.render_compound [t] (List.cons_ne_nil t []) (List.forall_mem_singleton.mpr h)
  rw [compound_singleton] at hone
  exact hone

theorem render_tokens (p : Pen) (tokens : List (List Char)) (h : ∀ t ∈ tokens, IsToken t) :
    p.render (String.join (tokens.map (fun t => ControlSequence.text ⟨t, 'm'⟩))) =
      { pen := { p with style := p.style.applyCodes (tokens.map tokenValue) } } := by
  have hcomplete : ∀ g ∈ tokens.map (fun t => (⟨t, 'm'⟩ : ControlSequence)), g.IsComplete := by
    intro g hg
    rcases List.mem_map.mp hg with ⟨t, ht, rfl⟩
    exact ⟨(h t ht).letterless, rfl⟩
  have hrender := p.render_bare _ _ hcomplete (p.obeyAll?_tokens tokens h)
  rw [List.map_map] at hrender
  exact hrender

theorem useAll_tokens (p : Pen) (tokens : List (List Char)) (h : ∀ t ∈ tokens, IsToken t) :
    p.useAll (tokens.map (fun t => .render (ControlSequence.text ⟨t, 'm'⟩))) =
      { p with style := p.style.applyCodes (tokens.map tokenValue) } := by
  induction tokens generalizing p with
  | nil => rfl
  | cons t tokens ih =>
      rw [List.map_cons, useAll, List.foldl_cons, ← useAll, use,
        p.render_token t (h t List.mem_cons_self), ih _ (fun u hu => h u (List.mem_cons_of_mem t hu))]
      rfl

/-- A compound sequence is read like its parts, be they one text or a text each:
    nothing is written or dropped, work does not break off, and the pen has the
    style that the numbers of the tokens make of the one before, with its cursor
    where it was. If one of the numbers is zero, every pen gets the same style. -/
theorem compound_like_parts (p : Pen) (tokens : List (List Char)) (hne : tokens ≠ [])
    (h : ∀ t ∈ tokens, IsToken t) :
    let after : Pen := { p with style := p.style.applyCodes (tokens.map tokenValue) }
    let part (t : List Char) : String := ControlSequence.text ⟨t, 'm'⟩
    p.render (compound tokens).text = { pen := after } ∧
      p.render (String.join (tokens.map part)) = { pen := after } ∧
      p.useAll (tokens.map (fun t => .render (part t))) = after ∧
      (∀ t ∈ tokens, ∀ q : Pen,
        q.render (part t) = { pen := { q with style := q.style.applyCode (tokenValue t) } }) ∧
      ((∃ t ∈ tokens, tokenValue t = 0) → ∀ q : Pen,
        (q.render (compound tokens).text).pen = { q with style := after.style }) := by
  intro after part
  refine ⟨p.render_compound tokens hne h, p.render_tokens tokens h, p.useAll_tokens tokens h,
    fun t ht q => q.render_token t (h t ht), ?_⟩
  rintro ⟨t, ht, hzero⟩ q
  have hmem : 0 ∈ tokens.map tokenValue := List.mem_map.mpr ⟨t, ht, hzero⟩
  rw [q.render_compound tokens hne h, Style.applyCodes_of_zero_mem q.style p.style _ hmem]

/-- A number in front of other characters, an introducer inside a token, digits of
    another script, and nothing. -/
theorem compound_like_parts_mixed :
    let p : Pen := { x := 2, y := 3, style := { inverse := true } }
    let tokens := ["1+".toList, "\x1b[4".toList, "\u0663\u0661".toList, "".toList, "9:5".toList]
    tokens ≠ [] ∧ (∀ t ∈ tokens, IsToken t) ∧ (∃ t ∈ tokens, tokenValue t = 0) ∧
      (compound tokens).text = "\x1b[1+;\x1b[4;\u0663\u0661;;9:5m" ∧
      p.render (compound tokens).text =
        p.render (String.join (tokens.map (fun t => ControlSequence.text ⟨t, 'm'⟩))) ∧
      (p.render (compound tokens).text).pen = { p with style := { strikethrough := true } } ∧
      ∀ q : Pen,
        (q.render (compound tokens).text).pen = { q with style := { strikethrough := true } } := by
  intro p tokens
  have hne : tokens ≠ [] := by decide
  have htokens : ∀ t ∈ tokens, IsToken t := by decide
  -- The token without a character is the one that means zero.
  have hzero : ∃ t ∈ tokens, tokenValue t = 0 := ⟨"".toList, by simp [tokens], rfl⟩
  have hstyle : p.style.applyCodes (tokens.map tokenValue) = { strikethrough := true } := by decide
  rcases compound_like_parts p tokens hne htokens with ⟨hwhole, hparts, _, _, hany⟩
  refine ⟨hne, htokens, hzero, by decide, hwhole.trans hparts.symm, ?_, ?_⟩
  · rw [hwhole, hstyle]
  · rw [hstyle] at hany
    exact hany hzero

end Pen

end SimTerm
