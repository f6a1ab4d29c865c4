/-!
Cutting text at a separator. The main statements are `cut?_eq_some_iff`, which says that a cut at
a character is made at the first one, and `pieces_append`, which takes the pieces of a text apart
at any separator.
-/

namespace WindSymbols.Text

/-- The text before and after the first place where a separator stands. -/
def cut? (separator : List Char) : List Char → Option (List Char × List Char)
  | [] => none
  | c :: rest =>
    if separator.isPrefixOf (c :: rest) then
      some ([], (c :: rest).drop separator.length)
    else
      (cut? separator rest).map fun parts => (c :: parts.1, parts.2)

theorem cut?_cons (s c : Char) (rest : List Char) :
    cut? [s] (c :: rest) =
      if s = c then some ([], rest) else (cut? [s] rest).map fun p => (c :: p.1, p.2) := by
  simp [cut?, List.isPrefixOf]

theorem cut?_eq_none_iff {s : Char} {cs : List Char} : cut? [s] cs = none ↔ s ∉ cs := by
  induction cs with
  | nil => simp [cut?]
  | cons c rest ih =>
    rw [cut?_cons]
    by_cases h : s = c
    · simp [h]
    · simp [h, ih]

theorem cut?_append {s : Char} {before : List Char} (h : s ∉ before) (after : List Char) :
    cut? [s] (before ++ s :: after) = some (before, after) := by
  induction before with
  | nil => simp [cut?_cons]
  | cons c before ih =>
    obtain ⟨hc, hrest⟩ := not_or.mp (mt List.mem_cons.mpr h)
    simp [cut?_cons, hc, ih hrest]

theorem cut?_eq_some_iff {s : Char} {cs before after : List Char} :
    cut? [s] cs = some (before, after) ↔ cs = before ++ s :: after ∧ s ∉ before := by
  constructor
  · intro h
    induction cs generalizing before with
    | nil => simp [cut?] at h
    | cons c rest ih =>
      rw [cut?_cons] at h
      by_cases hc : s = c
      · simp_all
      · rw [if_neg hc] at h
        obtain ⟨parts, hparts, heq⟩ := Option.map_eq_some_iff.mp h
        cases heq
        obtain ⟨hcs, hmem⟩ := ih hparts
        simp [hc, hcs.symm, hmem]
  · rintro ⟨rfl, h⟩
    exact cut?_append h after

theorem eq_append_of_cut? {s cs before after : List Char} (h : cut? s cs = some (before, after)) :
    cs = before ++ (s ++ after) := by
  induction cs generalizing before with
  | nil => simp [cut?] at h
  | cons c rest ih =>
    rw [cut?] at h
    split at h
    · rename_i hprefix
      cases h
      exact (List.prefix_iff_eq_append.mp (List.isPrefixOf_iff_prefix.mp hprefix)).symm
    · obtain ⟨parts, hparts, heq⟩ := Option.map_eq_some_iff.mp h
      cases heq
      exact congrArg (c :: ·) (ih hparts)

theorem cut?_append_of_head {c : Char} {before : List Char} (h : c ∉ before)
    (more after : List Char) :
    cut? (c :: more) (before ++ (c :: more ++ after)) = some (before, after) := by
  induction before with
  | nil => simp [cut?, List.isPrefixOf_iff_prefix]
  | cons d before ih =>
    obtain ⟨hd, hrest⟩ := not_or.mp (mt List.mem_cons.mpr h)
    rw [List.cons_append, cut?, if_neg, ih hrest]
    · rfl
    · simp [List.isPrefixOf, hd]

def pieces (separator : Char) : List Char → List (List Char)
  | [] => [[]]
  | c :: rest =>
    if c = separator then [] :: pieces separator rest
    else (pieces separator rest).modifyHead (c :: ·)

theorem pieces_ne_nil (s : Char) (cs : List Char) : pieces s cs ≠ [] := by
  induction cs with
  | nil => simp [pieces]
  | cons c rest ih =>
    rw [pieces]
    split
    · simp
    · simpa using ih

theorem pieces_of_not_mem {s : Char} {cs : List Char} (h : s ∉ cs) : pieces s cs = [cs] := by
  induction cs with
  | nil => rfl
  | cons c rest ih =>
    obtain ⟨hc, hrest⟩ := not_or.mp (mt List.mem_cons.mpr h)
    simp [pieces, Ne.symm hc, ih hrest]

theorem pieces_append (s : Char) (a b : List Char) :
    pieces s (a ++ s :: b) = pieces s a ++ pieces s b := by
  induction a with
  | nil => simp [pieces]
  | cons c rest ih =>
    by_cases hc : c = s
    · simp [pieces, hc, ih]
    · obtain ⟨first, more, h⟩ := List.exists_cons_of_ne_nil (pieces_ne_nil s rest)
      simp [pieces, hc, ih, h]

theorem not_mem_of_mem_pieces {s : Char} {cs piece : List Char} (h : piece ∈ pieces s cs) :
    s ∉ piece := by
  induction cs generalizing piece with
  | nil => simp_all [pieces]
  | cons c rest ih =>
    obtain ⟨first, more, hp⟩ := List.exists_cons_of_ne_nil (pieces_ne_nil s rest)
    rw [pieces, hp] at h
    split at h
    · rcases List.mem_cons.mp h with rfl | h
      · simp
      · exact ih (hp ▸ h)
    · rename_i hc
      rcases List.mem_cons.mp h with rfl | h
      · simp [Ne.symm hc, ih (hp ▸ List.mem_cons_self)]
      · exact ih (hp ▸ List.mem_cons_of_mem _ h)

end WindSymbols.Text
