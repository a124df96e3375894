import SimTerm.Path

/-!
# Paths in their Components

What reading does to paths that were put together.

Two paths with a slash between them have the components of the first and then
those of the second. The slash adds nothing of its own, since an empty piece
is no component, and so it does not matter whether the first path ends in a
slash or the second one is empty. Only an empty first path is different: the
slash would make the whole path absolute.

Components that are written as an absolute path are read back
(`parse_absoluteText`). For that they must be components, and they must not
hold a slash themselves. What was read from a path is like that
(`parse_isComponent`), and so is every name that an entry
can have. So a path that was read and is written again is read as the same
path (`parse_text`). Without components there is nothing to write, and a slash
or a single dot says which of the two paths of that kind it is.

## Theorems

* `parse_append`: Two paths with a slash between them.
* `parse_absoluteText`: Components that were written are read back.
* `parse_text`, `parse_text_parse`: So are paths.
* `isEntryName_of_mem_parse`: A component other than a double dot can name an
  entry.
* `parse_of_isEntryName`: The name of an entry is the relative path to it.
-/

namespace SimTerm

namespace Path

/-! ### Pieces -/

theorem not_mem_of_mem_splitOn (c : Char) (cs : List Char) :
    ∀ part ∈ cs.splitOn c, c ∉ part := by
  induction cs with
  | nil =>
      intro part hpart
      rw [List.splitOn_nil, List.mem_singleton] at hpart
      rw [hpart]
      exact List.not_mem_nil
  | cons d rest ih =>
      intro part hpart
      rw [List.splitOn_cons_eq_if_modifyHead] at hpart
      by_cases hd : (d == c) = true
      · rw [if_pos hd] at hpart
        rcases List.mem_cons.mp hpart with h | h
        · rw [h]
          exact List.not_mem_nil
        · exact ih part h
      · rw [if_neg hd] at hpart
        -- The first part of the rest gets one element more, which is not `c`.
        cases hrest : rest.splitOn c with
        | nil => exact absurd hrest (List.splitOn_ne_nil c rest)
        | cons first others =>
            rw [hrest] at hpart ih
            rcases List.mem_cons.mp hpart with h | h
            · rw [h, List.mem_cons, not_or]
              refine ⟨fun hcd => hd (beq_iff_eq.mpr hcd.symm), ?_⟩
              exact ih first List.mem_cons_self
            · exact ih part (List.mem_cons_of_mem _ h)

theorem separator_not_mem_of_mem_pieces (s piece : String) (h : piece ∈ pieces s) :
    separator ∉ piece.toList := by
  rcases List.mem_map.mp h with ⟨part, hpart, rfl⟩
  rw [String.toList_ofList]
  exact not_mem_of_mem_splitOn separator s.toList part hpart

theorem pieces_append (p q : String) : pieces (p ++ "/" ++ q) = pieces p ++ pieces q := by
  have htext : (p ++ "/" ++ q).toList = p.toList ++ separator :: q.toList := by
    rw [String.toList_append, String.toList_append, List.append_assoc]
    rfl
  rw [pieces, htext, List.splitOn_append_cons_self, List.map_append, pieces, pieces]

theorem pieces_joined (names : List String) (hne : names ≠ [])
    (h : ∀ name ∈ names, separator ∉ name.toList) : pieces (joined names) = names := by
  have hsplit : ([separator].intercalate (names.map String.toList)).splitOn separator
      = names.map String.toList := by
    refine List.splitOn_intercalate separator (fun cs hcs => ?_) ?_
    · rcases List.mem_map.mp hcs with ⟨name, hname, rfl⟩
      exact h name hname
    · rw [ne_eq, List.map_eq_nil_iff]
      exact hne
  rw [pieces, joined, String.toList_ofList, hsplit, List.map_map]
  exact List.map_id'' (fun name => String.ofList_toList) names

/-! ### Reading -/

theorem isAbsolute_eq_false (p : String) (h : p.toList.head? ≠ some separator) :
    (parse p).isAbsolute = false := by
  rw [parse]
  exact beq_eq_false_iff_ne.mpr h

theorem parse_append (p q : String) (hp : p ≠ "") :
    parse (p ++ "/" ++ q) = ⟨(parse p).isAbsolute, (parse p).components ++ (parse q).components⟩ := by
  have hhead : (p ++ "/" ++ q).toList.head? = p.toList.head? := by
    rw [String.toList_append, String.toList_append, List.append_assoc]
    cases hcs : p.toList with
    | nil => exact absurd (String.toList_eq_nil_iff.mp hcs) hp
    | cons c cs => rfl
  rw [parse, hhead, pieces_append, List.filter_append, parse, parse]

/-- Components that were written as an absolute path are read back. What is
    written begins with a slash, and the empty piece in front of it is dropped
    again. -/
theorem parse_absoluteText (names : List String)
    (h : ∀ name ∈ names, isComponent name = true ∧ separator ∉ name.toList) :
    parse (absoluteText names) = ⟨true, names⟩ := by
  have hfilter : names.filter isComponent = names :=
    List.filter_eq_self.mpr (fun name hname => (h name hname).1)
  have hslash : absoluteText names = "" ++ "/" ++ joined names := by
    rw [absoluteText, String.empty_append]
  have hhead : (absoluteText names).toList.head? = some separator := by
    rw [absoluteText, String.toList_append]
    rfl
  have hpieces : (pieces (absoluteText names)).filter isComponent
      = (pieces (joined names)).filter isComponent := by
    rw [hslash, pieces_append, List.filter_append]
    rfl
  rw [parse, hhead, hpieces]
  by_cases hne : names = []
  · rw [hne]
    rfl
  · rw [pieces_joined names hne (fun name hname => (h name hname).2), hfilter]
    rfl

theorem parse_isComponent (p name : String) (h : name ∈ (parse p).components) :
    isComponent name = true ∧ separator ∉ name.toList :=
  ⟨(List.mem_filter.mp h).2, separator_not_mem_of_mem_pieces p name (List.mem_filter.mp h).1⟩

/-- Components that were written without a slash in front are read back as a
    relative path. -/
theorem parse_joined (names : List String) (hne : names ≠ [])
    (h : ∀ name ∈ names, isComponent name = true ∧ separator ∉ name.toList) :
    parse (joined names) = ⟨false, names⟩ := by
  have hhead : ((joined names).toList.head? == some separator) = false := by
    rcases List.exists_cons_of_ne_nil hne with ⟨first, others, rfl⟩
    rcases h first List.mem_cons_self with ⟨hcomponent, hslash⟩
    -- The first component has a first character, which is no slash.
    have hfirst : first.toList ≠ [] := fun hnil => by
      rw [String.toList_eq_nil_iff.mp hnil] at hcomponent
      exact Bool.false_ne_true hcomponent
    rcases List.exists_cons_of_ne_nil hfirst with ⟨c, cs, hcs⟩
    have hjoined : (joined (first :: others)).toList.head? = some c := by
      rw [joined, String.toList_ofList, List.map_cons, hcs]
      cases others <;> rfl
    rw [hjoined, beq_eq_false_iff_ne, ne_eq, Option.some.injEq]
    intro hc
    rw [hcs, hc] at hslash
    exact hslash List.mem_cons_self
  rw [parse, hhead, pieces_joined names hne (fun name hname => (h name hname).2),
    List.filter_eq_self.mpr (fun name hname => (h name hname).1)]

/-- A path that was written is read back. -/
theorem parse_text (p : Path)
    (h : ∀ name ∈ p.components, isComponent name = true ∧ separator ∉ name.toList) :
    parse (text p) = p := by
  rcases p with ⟨isAbsolute, components⟩
  cases isAbsolute with
  | true => exact parse_absoluteText components h
  | false =>
      cases components with
      -- The dot that is written here is dropped again.
      | nil => decide
      | cons first others => exact parse_joined (first :: others) (List.cons_ne_nil _ _) h

theorem parse_text_parse (p : String) : parse (text (parse p)) = parse p :=
  parse_text (parse p) (parse_isComponent p)

/-! ### Names of entries -/

theorem isEntryName_iff (name : String) :
    isEntryName name = true ↔
      isComponent name = true ∧ name ≠ ".." ∧ separator ∉ name.toList := by
  simp only [isEntryName, isComponent, Bool.and_eq_true, bne_iff_ne, Bool.not_eq_true',
    List.contains_eq_mem, decide_eq_false_iff_not, and_assoc]

theorem isEntryName_of_mem_parse (p name : String) (h : name ∈ (parse p).components)
    (hdots : name ≠ "..") : isEntryName name = true :=
  (isEntryName_iff name).mpr ⟨(parse_isComponent p name h).1, hdots, (parse_isComponent p name h).2⟩

/-- The name of an entry is the relative path to it. -/
theorem parse_of_isEntryName (name : String) (h : isEntryName name = true) :
    parse name = ⟨false, [name]⟩ := by
  rcases (isEntryName_iff name).mp h with ⟨hcomponent, _, hslash⟩
  have hjoined : joined [name] = name := by
    rw [joined, List.map_singleton, List.intercalate_singleton, String.ofList_toList]
  have hpieces : pieces name = [name] := by
    have hone := pieces_joined [name] (List.cons_ne_nil _ _) (fun other hother => by
      rw [List.mem_singleton.mp hother]
      exact hslash)
    rw [hjoined] at hone
    exact hone
  have hhead : (name.toList.head? == some separator) = false :=
    beq_eq_false_iff_ne.mpr (fun hc => hslash (List.mem_of_mem_head? hc))
  rw [parse, hhead, hpieces, List.filter_cons_of_pos hcomponent, List.filter_nil]

theorem parse_absoluteText_of_isEntryName (names : List String)
    (h : ∀ name ∈ names, isEntryName name = true) :
    parse (absoluteText names) = ⟨true, names⟩ := by
  refine parse_absoluteText names (fun name hname => ?_)
  have hentry := (isEntryName_iff name).mp (h name hname)
  exact ⟨hentry.1, hentry.2.2⟩

end Path

end SimTerm
