import WindSymbols.Proofs.Console.Plain

/-! What an escaped text shows. Escaping leaves the tags of a text where they are
(`tag?_escapeTags`) and makes every one of them a text by itself, so that nothing is left that could
be at fault (`plainChars_escapeTags`). The text is shown in runs, its tags and what stands between
them, and emoji are only looked for inside a run. -/

namespace WindSymbols

open Text

namespace Markup

/-! Tags. -/

theorem tagBody_eq_some {cs body after : List Char} (h : tagBody cs = some (body, after)) :
    cs = body ++ ']' :: after ∧ '[' ∉ body := by
  induction cs generalizing body with
  | nil => cases h
  | cons c rest ih =>
    rw [tagBody] at h
    split at h
    · cases h
    · rename_i hopen
      split at h
      · rename_i hclose
        cases h
        exact ⟨by rw [hclose, List.nil_append], List.not_mem_nil⟩
      · obtain ⟨⟨tail, rest'⟩, htail, heq⟩ := Option.map_eq_some_iff.mp h
        cases heq
        obtain ⟨hrest, hbody⟩ := ih htail
        refine ⟨by rw [hrest, List.cons_append], ?_⟩
        rw [List.mem_cons, not_or]
        exact ⟨Ne.symm hopen, hbody⟩

theorem tag?_eq_some {cs body after : List Char} (h : tag? cs = some (body, after)) :
    cs = body ++ ']' :: after ∧ '[' ∉ body := by
  cases cs with
  | nil => cases h
  | cons c rest =>
    rw [tag?] at h
    split at h
    · rename_i hstart
      obtain ⟨⟨tail, rest'⟩, htail, heq⟩ := Option.map_eq_some_iff.mp h
      cases heq
      obtain ⟨hrest, hbody⟩ := tagBody_eq_some htail
      refine ⟨by rw [hrest, List.cons_append], ?_⟩
      rw [List.mem_cons, not_or]
      refine ⟨?_, hbody⟩
      rintro rfl
      exact absurd hstart (by decide)
    · cases h

@[simp] theorem backslashes_zero_append (cs : List Char) : backslashes 0 ++ cs = cs := rfl

theorem backslashes_append_cons (n : Nat) (cs : List Char) :
    backslashes n ++ '\\' :: cs = backslashes (n + 1) ++ cs := by
  rw [backslashes, backslashes, List.replicate_succ', List.append_assoc, List.singleton_append]

theorem tagBody_cons {c : Char} (hopen : c ≠ '[') (hclose : c ≠ ']') (rest : List Char) :
    tagBody (c :: rest) = (tagBody rest).map fun parts => (c :: parts.1, parts.2) := by
  rw [tagBody, if_neg hopen, if_neg hclose]

theorem tagBody_append {tail : List Char} (h : tagBody tail = none) (cs : List Char) :
    tagBody (cs ++ tail) = (tagBody cs).map fun parts => (parts.1, parts.2 ++ tail) := by
  induction cs with
  | nil => exact h
  | cons c rest ih =>
    by_cases hopen : c = '['
    · rw [hopen]
      rfl
    · by_cases hclose : c = ']'
      · rw [hclose]
        rfl
      · rw [List.cons_append, tagBody_cons hopen hclose, tagBody_cons hopen hclose, ih,
          Option.map_map, Option.map_map]
        rfl

theorem tag?_of_tagBody {cs : List Char} (h : tagBody cs = none) : tag? cs = none := by
  cases cs with
  | nil => rfl
  | cons c rest =>
    by_cases hopen : c = '['
    · rw [hopen]
      rfl
    · by_cases hclose : c = ']'
      · rw [hclose] at h
        cases h
      · rw [tagBody_cons hopen hclose, Option.map_eq_none_iff] at h
        rw [tag?, h, Option.map_none, ite_self]

theorem tag?_append {tail : List Char} (h : tagBody tail = none) (cs : List Char) :
    tag? (cs ++ tail) = (tag? cs).map fun parts => (parts.1, parts.2 ++ tail) := by
  cases cs with
  | nil => exact tag?_of_tagBody h
  | cons c rest =>
    rw [List.cons_append, tag?, tag?, tagBody_append h]
    split
    · rw [Option.map_map, Option.map_map]
      rfl
    · rfl

theorem tagBody_backslashes (n : Nat) {tail : List Char} (h : tagBody tail = none) :
    tagBody (backslashes n ++ tail) = none := by
  induction n with
  | zero => exact h
  | succ n ih =>
    have hcons : backslashes (n + 1) ++ tail = '\\' :: (backslashes n ++ tail) := rfl
    rw [hcons, tagBody_cons (by decide) (by decide), ih, Option.map_none]

theorem tagBody_escapeTags (passed : Nat) (cs : List Char) :
    tagBody (escapeTags passed cs) =
      (tagBody cs).map fun parts => (parts.1, escapeTags 0 parts.2) := by
  induction cs generalizing passed with
  | nil => rfl
  | cons c rest ih =>
    rw [escapeTags]
    split
    · rename_i hbackslash
      subst hbackslash
      rw [tagBody_cons (by decide) (by decide), tagBody_cons (by decide) (by decide), ih,
        Option.map_map, Option.map_map]
      rfl
    · split
      · rename_i htag
        rw [htag.1, tagBody_backslashes _ rfl]
        rfl
      · by_cases hopen : c = '['
        · rw [hopen]
          rfl
        · by_cases hclose : c = ']'
          · rw [hclose]
            rfl
          · rw [tagBody_cons hopen hclose, tagBody_cons hopen hclose, ih, Option.map_map,
              Option.map_map]
            rfl

theorem tag?_escapeTags (cs : List Char) :
    tag? (escapeTags 0 cs) = (tag? cs).map fun parts => (parts.1, escapeTags 0 parts.2) := by
  cases cs with
  | nil => rfl
  | cons c rest =>
    rw [escapeTags]
    split
    · rename_i hbackslash
      rw [hbackslash]
      rfl
    · split
      · rename_i htag
        rw [htag.1]
        rfl
      · rw [tag?, tag?, tagBody_escapeTags]
        split
        · rw [Option.map_map, Option.map_map]
          rfl
        · rfl

/-! Pieces. -/

theorem pieces_nil (passed : Nat) : pieces passed [] = (backslashes passed, []) := by
  rw [pieces]

theorem pieces_backslash (passed : Nat) (rest : List Char) :
    pieces passed ('\\' :: rest) = pieces (passed + 1) rest := by
  rw [pieces, if_pos rfl]

theorem pieces_tag {rest body after : List Char} (h : tag? rest = some (body, after))
    (passed : Nat) :
    pieces passed ('[' :: rest) = (backslashes (passed / 2),
      (if passed % 2 = 1 then .shown ('[' :: body ++ [']']) else .tag body) ::
        .shown (pieces 0 after).1 :: (pieces 0 after).2) := by
  rw [pieces, if_neg (by decide), if_pos rfl]
  split
  · rename_i hsome
    rw [h] at hsome
    cases hsome
    rfl
  · rename_i hnone
    rw [h] at hnone
    cases hnone

theorem pieces_bracket {rest : List Char} (h : tag? rest = none) (passed : Nat) :
    pieces passed ('[' :: rest) =
      (backslashes (passed - 1) ++ '[' :: (pieces 0 rest).1, (pieces 0 rest).2) := by
  rw [pieces, if_neg (by decide), if_pos rfl]
  split
  · rename_i hsome
    rw [h] at hsome
    cases hsome
  · rfl

theorem pieces_other {c : Char} (hbackslash : c ≠ '\\') (hopen : c ≠ '[') (passed : Nat)
    (rest : List Char) :
    pieces passed (c :: rest) =
      (backslashes passed ++ c :: (pieces 0 rest).1, (pieces 0 rest).2) := by
  rw [pieces, if_neg hbackslash, if_neg hopen]

theorem count_passed {α : Type} {f : Nat → List Char → α}
    (h : ∀ passed rest, f passed ('\\' :: rest) = f (passed + 1) rest) (passed n : Nat)
    (rest : List Char) : f passed (backslashes n ++ rest) = f (passed + n) rest := by
  induction n generalizing passed with
  | zero => rfl
  | succ n ih =>
    have hcons : backslashes (n + 1) ++ rest = '\\' :: (backslashes n ++ rest) := rfl
    rw [hcons, h, ih, Nat.add_assoc, Nat.add_comm 1]

theorem tag_induction {motive : Nat → List Char → Prop} (nil : ∀ passed, motive passed [])
    (backslash : ∀ passed rest, motive (passed + 1) rest → motive passed ('\\' :: rest))
    (tag : ∀ passed rest body after, tag? rest = some (body, after) → motive 0 after →
      motive passed ('[' :: rest))
    (bracket : ∀ passed rest, tag? rest = none → motive 0 rest → motive passed ('[' :: rest))
    (other : ∀ passed c rest, c ≠ '\\' → c ≠ '[' → motive 0 rest → motive passed (c :: rest))
    (passed : Nat) (cs : List Char) : motive passed cs := by
  induction passed, cs using pieces.induct with
  | case1 passed => exact nil passed
  | case2 passed rest ih => exact backslash passed rest ih
  | case3 passed rest body after htag _ _ _ _ _ ih => exact tag passed rest body after htag ih
  | case4 passed rest htag _ _ _ _ ih => exact bracket passed rest htag ih
  | case5 passed c rest hbackslash hopen _ _ _ ih => exact other passed c rest hbackslash hopen ih

/-- A text cut at its tags: what stands before the first of them, and from there on every tag and
what stands after it. Of the backslashes before a bracket that opens no tag the last one is left
out. -/
def runs (passed : Nat) (cs : List Char) : List Char × List (List Char) :=
  match cs with
  | [] => (backslashes passed, [])
  | c :: rest =>
    if c = '\\' then runs (passed + 1) rest
    else if c = '[' then
      match h : tag? rest with
      | some (body, after) =>
        have : after.length < rest.length := tag?_length h
        (backslashes passed, ('[' :: body ++ [']']) :: (runs 0 after).1 :: (runs 0 after).2)
      | none => (backslashes (passed - 1) ++ c :: (runs 0 rest).1, (runs 0 rest).2)
    else (backslashes passed ++ c :: (runs 0 rest).1, (runs 0 rest).2)
termination_by cs.length

theorem runs_nil (passed : Nat) : runs passed [] = (backslashes passed, []) := by
  rw [runs]

theorem runs_backslash (passed : Nat) (rest : List Char) :
    runs passed ('\\' :: rest) = runs (passed + 1) rest := by
  rw [runs, if_pos rfl]

theorem runs_tag {rest body after : List Char} (h : tag? rest = some (body, after))
    (passed : Nat) :
    runs passed ('[' :: rest) = (backslashes passed,
      ('[' :: body ++ [']']) :: (runs 0 after).1 :: (runs 0 after).2) := by
  rw [runs, if_neg (by decide), if_pos rfl]
  split
  · rename_i hsome
    rw [h] at hsome
    cases hsome
    rfl
  · rename_i hnone
    rw [h] at hnone
    cases hnone

theorem runs_bracket {rest : List Char} (h : tag? rest = none) (passed : Nat) :
    runs passed ('[' :: rest) =
      (backslashes (passed - 1) ++ '[' :: (runs 0 rest).1, (runs 0 rest).2) := by
  rw [runs, if_neg (by decide), if_pos rfl]
  split
  · rename_i hsome
    rw [h] at hsome
    cases hsome
  · rfl

theorem runs_other {c : Char} (hbackslash : c ≠ '\\') (hopen : c ≠ '[') (passed : Nat)
    (rest : List Char) :
    runs passed (c :: rest) = (backslashes passed ++ c :: (runs 0 rest).1, (runs 0 rest).2) := by
  rw [runs, if_neg hbackslash, if_neg hopen]

theorem pieces_escapeTags (passed : Nat) (cs : List Char) :
    pieces passed (escapeTags passed cs) =
      ((runs passed cs).1, (runs passed cs).2.map Piece.shown) := by
  induction passed, cs using tag_induction with
  | nil passed => rw [escapeTags, pieces_nil, runs_nil, List.map_nil]
  | backslash passed rest ih =>
    rw [escapeTags, if_pos rfl, pieces_backslash, runs_backslash, ih]
  | tag passed rest body after htag ih =>
    have hescaped : tag? (escapeTags 0 rest) = some (body, escapeTags 0 after) := by
      rw [tag?_escapeTags, htag, Option.map_some]
    have hodd : (passed + (passed + 1)) % 2 = 1 := by omega
    have hhalf : (passed + (passed + 1)) / 2 = passed := by omega
    rw [escapeTags, if_neg (by decide), if_pos ⟨rfl, by rw [htag, Option.isSome_some]⟩,
      count_passed pieces_backslash, pieces_tag hescaped, if_pos hodd, hhalf, runs_tag htag, ih]
    rfl
  | bracket passed rest htag ih =>
    have hescaped : tag? (escapeTags 0 rest) = none := by
      rw [tag?_escapeTags, htag, Option.map_none]
    rw [escapeTags, if_neg (by decide), if_neg (by rw [htag]; simp), pieces_bracket hescaped,
      runs_bracket htag, ih]
  | other passed c rest hbackslash hopen ih =>
    rw [escapeTags, if_neg hbackslash, if_neg (fun h => hopen h.1), pieces_other hbackslash hopen,
      runs_other hbackslash hopen, ih]

def showRuns (texts : List Char × List (List Char)) : List Char :=
  ((texts.1 :: texts.2).flatMap showEmoji).filter (!isControl ·)

theorem shown_map_shown (opened : List Opened) (texts : List (List Char)) :
    shown opened (texts.map Piece.shown) = .ok (texts.flatMap showEmoji) := by
  induction texts with
  | nil => rfl
  | cons text rest ih =>
    rw [List.map_cons, shown, ih, List.flatMap_cons]
    rfl

/-- An escaped text is shown run by run, and is never at fault. -/
theorem plainChars_escapeTags (cs : List Char) :
    plainChars (escapeTags 0 cs) = .ok (showRuns (runs 0 cs)) := by
  have hshown := shown_map_shown [] ((runs 0 cs).1 :: (runs 0 cs).2)
  rw [List.map_cons] at hshown
  unfold plainChars
  rw [pieces_escapeTags]
  simp only [hshown]
  rfl

/-! A text that ends in one backslash is escaped with one more. -/

theorem escapeTags_append_backslash (passed : Nat) (cs : List Char) :
    escapeTags passed (cs ++ ['\\']) = escapeTags passed cs ++ ['\\'] := by
  induction cs generalizing passed with
  | nil => rfl
  | cons c rest ih =>
    have htag : (tag? (rest ++ ['\\'])).isSome = (tag? rest).isSome := by
      rw [tag?_append rfl, Option.isSome_map]
    rw [List.cons_append, escapeTags, escapeTags, htag, ih, ih]
    split
    · rfl
    · split
      · rw [List.append_assoc, List.cons_append]
      · rfl

/-- The text whose tags are escaped in the place of the given one. -/
def beforeEscape (cs : List Char) : List Char :=
  if endsInBackslash (escapeTags 0 cs) then cs ++ ['\\'] else cs

theorem escapeChars_eq (cs : List Char) : escapeChars cs = escapeTags 0 (beforeEscape cs) := by
  unfold escapeChars beforeEscape
  split
  · rename_i hends
    rw [if_pos hends, escapeTags_append_backslash]
  · rename_i hends
    rw [if_neg hends]

def escapedShown (s : String) : String := .ofList (showRuns (runs 0 (beforeEscape s.toList)))

theorem plain_escape (s : String) : plain (escape s) = .ok (escapedShown s) := by
  unfold plain escape
  rw [String.toList_ofList, escapeChars_eq, plainChars_escapeTags]
  rfl

end Markup
end WindSymbols
