import WindSymbols.Proofs.Console.EmojiCodes
import WindSymbols.Proofs.Console.Escape

/-! Which texts are shown unaltered if they are escaped. Markup only takes characters away or puts
emoji in the place of colons, so that nothing of that kind may be in the text (`shown_eq_iff`).
Escaping protects tags, but neither codes of emoji nor control characters, nor a backslash before a
bracket that opens no tag, nor one backslash at the end (`escapedShown_eq_iff`). -/

namespace WindSymbols

open Text

namespace Markup

/-- Whether a backslash stands before a bracket that opens no tag. -/
def hasStray (afterBackslash : Bool) : List Char → Bool
  | [] => false
  | c :: rest => (afterBackslash && c = '[' && (tag? rest).isNone) || hasStray (c = '\\') rest

theorem hasStray_tag {rest body after : List Char} (h : tag? rest = some (body, after))
    (afterBackslash : Bool) :
    hasStray afterBackslash ('[' :: rest) = hasStray false after := by
  have hbody : ∀ (b : Bool) (cs : List Char), '[' ∉ cs →
      hasStray b (cs ++ ']' :: after) = hasStray false after := by
    intro b cs hcs
    induction cs generalizing b with
    | nil => simp [hasStray]
    | cons c cs ih =>
      obtain ⟨hc, hcs⟩ := not_or.mp (mt List.mem_cons.mpr hcs)
      rw [List.cons_append, hasStray, ih _ hcs]
      simp [Ne.symm hc]
  obtain ⟨hrest, hopen⟩ := tag?_eq_some h
  rw [hasStray, h, hrest]
  simp [hbody _ _ hopen]

/-! Runs. -/

def flatRuns (passed : Nat) (cs : List Char) : List Char :=
  (runs passed cs).1 ++ (runs passed cs).2.flatten

theorem length_backslashes (n : Nat) : (backslashes n).length = n := List.length_replicate

theorem flatRuns_nil (passed : Nat) : flatRuns passed [] = backslashes passed := by
  rw [flatRuns, runs_nil, List.flatten_nil, List.append_nil]

theorem flatRuns_backslash (passed : Nat) (rest : List Char) :
    flatRuns passed ('\\' :: rest) = flatRuns (passed + 1) rest := by
  rw [flatRuns, runs_backslash, flatRuns]

theorem flatRuns_tag {rest body after : List Char} (h : tag? rest = some (body, after))
    (passed : Nat) :
    flatRuns passed ('[' :: rest) =
      backslashes passed ++ ('[' :: body ++ ']' :: flatRuns 0 after) := by
  rw [flatRuns, runs_tag h, flatRuns, List.flatten_cons, List.flatten_cons]
  simp

theorem flatRuns_bracket {rest : List Char} (h : tag? rest = none) (passed : Nat) :
    flatRuns passed ('[' :: rest) = backslashes (passed - 1) ++ '[' :: flatRuns 0 rest := by
  rw [flatRuns, runs_bracket h, flatRuns, List.append_assoc, List.cons_append]

theorem flatRuns_other {c : Char} (hbackslash : c ≠ '\\') (hopen : c ≠ '[') (passed : Nat)
    (rest : List Char) :
    flatRuns passed (c :: rest) = backslashes passed ++ c :: flatRuns 0 rest := by
  rw [flatRuns, runs_other hbackslash hopen, flatRuns, List.append_assoc, List.cons_append]

theorem sublist_backslashes {m n : Nat} (h : m ≤ n) :
    (backslashes m).Sublist (backslashes n) :=
  (List.replicate_sublist_replicate _).mpr h

theorem sublist_flatRuns (passed : Nat) (cs : List Char) :
    (flatRuns passed cs).Sublist (backslashes passed ++ cs) := by
  induction passed, cs using tag_induction with
  | nil passed => rw [flatRuns_nil, List.append_nil]
  | backslash passed rest ih =>
    rw [flatRuns_backslash, backslashes_append_cons]
    exact ih
  | tag passed rest body after htag ih =>
    rw [flatRuns_tag htag, (tag?_eq_some htag).1]
    exact (List.Sublist.refl _).append (((List.Sublist.refl _).append (ih.cons_cons _)).cons_cons _)
  | bracket passed rest htag ih =>
    rw [flatRuns_bracket htag]
    refine List.Sublist.append ?_ (ih.cons_cons _)
    exact sublist_backslashes (Nat.sub_le passed 1)
  | other passed c rest hbackslash hopen ih =>
    rw [flatRuns_other hbackslash hopen]
    exact (List.Sublist.refl _).append (ih.cons_cons _)

theorem flatRuns_eq_iff (passed : Nat) (cs : List Char) :
    flatRuns passed cs = backslashes passed ++ cs ↔ hasStray (0 < passed) cs = false := by
  induction passed, cs using tag_induction with
  | nil passed => simp [flatRuns_nil, hasStray]
  | backslash passed rest ih =>
    rw [flatRuns_backslash, backslashes_append_cons, ih]
    simp [hasStray]
  | tag passed rest body after htag ih =>
    rw [flatRuns_tag htag, hasStray_tag htag, (tag?_eq_some htag).1]
    simpa using ih
  | bracket passed rest htag ih =>
    rw [flatRuns_bracket htag]
    cases passed with
    | zero => simpa [hasStray] using ih
    | succ n =>
      have hlength := (sublist_flatRuns 0 rest).length_le
      rw [backslashes_zero_append] at hlength
      refine iff_of_false (fun h => ?_) (by simp [hasStray, htag])
      have hcount := congrArg List.length h
      simp only [List.length_append, List.length_cons, length_backslashes] at hcount
      omega
  | other passed c rest hbackslash hopen ih =>
    rw [flatRuns_other hbackslash hopen]
    simpa [hasStray, hopen, hbackslash] using ih

/-! Texts that are shown one after the other. -/

theorem count_flatMap_showEmoji (texts : List (List Char)) :
    (texts.flatMap showEmoji).count ':' + (if texts.any hasEmoji then 2 else 0) ≤
      texts.flatten.count ':' := by
  induction texts with
  | nil => exact Nat.le_refl 0
  | cons text rest ih =>
    have htext := count_colon_showEmoji text
    rw [List.flatMap_cons, List.flatten_cons, List.count_append, List.count_append, List.any_cons]
    cases hemoji : hasEmoji text with
    | false =>
      rw [Bool.false_or]
      omega
    | true =>
      rw [hemoji, if_pos rfl] at htext
      rw [Bool.true_or, if_pos rfl]
      omega

theorem flatMap_showEmoji {texts : List (List Char)} (h : ∀ text ∈ texts, hasEmoji text = false) :
    texts.flatMap showEmoji = texts.flatten := by
  rw [List.flatMap, List.map_congr_left fun text htext => showEmoji_of_hasEmoji (h text htext),
    List.map_id']

/-- Texts that are parts of another one show it only if they are all of it, and if none of its
characters is changed. -/
theorem shown_eq_iff {texts : List (List Char)} {cs : List Char} (h : texts.flatten.Sublist cs) :
    (texts.flatMap showEmoji).filter (!isControl ·) = cs ↔
      texts.flatten = cs ∧ (∀ text ∈ texts, hasEmoji text = false) ∧
        ∀ c ∈ cs, isControl c = false := by
  constructor
  · intro hshown
    have hemoji : ∀ text ∈ texts, hasEmoji text = false := by
      by_contra hsome
      have hany : texts.any hasEmoji = true := by simpa using hsome
      have hcount := count_flatMap_showEmoji texts
      have hfilter : ((texts.flatMap showEmoji).filter (!isControl ·)).count ':' ≤
          (texts.flatMap showEmoji).count ':' := List.filter_sublist.count_le ':'
      have hparts := h.count_le ':'
      rw [hshown] at hfilter
      rw [hany, if_pos rfl] at hcount
      omega
    rw [flatMap_showEmoji hemoji] at hshown
    have hfilter : cs.length ≤ texts.flatten.length := by
      rw [← hshown]
      exact List.length_filter_le _ _
    have hall := h.eq_of_length_le hfilter
    refine ⟨hall, hemoji, ?_⟩
    rw [hall, List.filter_eq_self] at hshown
    simpa using hshown
  · rintro ⟨hall, hemoji, hvisible⟩
    rw [flatMap_showEmoji hemoji, hall, List.filter_eq_self]
    simpa using hvisible

theorem showRuns_eq_iff (cs : List Char) :
    showRuns (runs 0 cs) = cs ↔ hasStray false cs = false ∧
      (∀ run ∈ (runs 0 cs).1 :: (runs 0 cs).2, hasEmoji run = false) ∧
        ∀ c ∈ cs, isControl c = false := by
  have hflat : ((runs 0 cs).1 :: (runs 0 cs).2).flatten = flatRuns 0 cs := List.flatten_cons
  have hsublist := sublist_flatRuns 0 cs
  have hall := flatRuns_eq_iff 0 cs
  rw [backslashes_zero_append, ← hflat] at hsublist hall
  rw [showRuns, shown_eq_iff hsublist, hall]
  simp

/-! Escaped texts. -/

theorem endsInBackslash_iff {cs : List Char} :
    endsInBackslash cs = true ↔ ∃ front, cs = front ++ ['\\'] ∧ front.getLast? ≠ some '\\' := by
  obtain ⟨back, rfl⟩ : ∃ back, cs = back.reverse := ⟨cs.reverse, (List.reverse_reverse cs).symm⟩
  have hfront : ∀ front, back.reverse = front ++ ['\\'] ↔ back = '\\' :: front.reverse := by
    intro front
    rw [List.reverse_eq_iff, List.reverse_append]
    rfl
  simp only [endsInBackslash, List.reverse_reverse, hfront]
  split
  · rename_i rest
    refine iff_of_false (by decide) ?_
    rintro ⟨front, hback, hlast⟩
    rw [List.getLast?_eq_head?_reverse, ← List.cons.inj hback |>.2] at hlast
    exact hlast rfl
  · rename_i rest hnot
    refine iff_of_true rfl ⟨rest.reverse, by rw [List.reverse_reverse], ?_⟩
    rw [List.getLast?_reverse]
    cases rest with
    | nil => nofun
    | cons c rest =>
      intro hc
      cases hc
      exact hnot rest rfl
  · rename_i hnot
    refine iff_of_false (by decide) ?_
    rintro ⟨front, rfl, -⟩
    exact hnot front.reverse rfl

theorem getLast?_escapeTags (passed : Nat) (cs : List Char) :
    (escapeTags passed cs).getLast? = cs.getLast? := by
  induction cs generalizing passed with
  | nil => rfl
  | cons c rest ih =>
    rw [escapeTags]
    split
    · rw [List.getLast?_cons, List.getLast?_cons, ih]
    · split
      · rw [List.getLast?_append, List.getLast?_cons, List.getLast?_cons, ih]
        rfl
      · rw [List.getLast?_cons, List.getLast?_cons, ih]

theorem endsInBackslash_escapeTags (cs : List Char) :
    endsInBackslash (escapeTags 0 cs) = endsInBackslash cs := by
  rw [Bool.eq_iff_iff, endsInBackslash_iff, endsInBackslash_iff]
  constructor
  · rintro ⟨front, hfront, hlast⟩
    have hcs : cs.getLast? = some '\\' := by
      rw [← getLast?_escapeTags 0, hfront, List.getLast?_concat]
    obtain ⟨rest, rfl⟩ := List.getLast?_eq_some_iff.mp hcs
    rw [escapeTags_append_backslash] at hfront
    rw [← List.append_cancel_right hfront, getLast?_escapeTags] at hlast
    exact ⟨rest, rfl, hlast⟩
  · rintro ⟨front, rfl, hlast⟩
    refine ⟨escapeTags 0 front, escapeTags_append_backslash 0 front, ?_⟩
    rwa [getLast?_escapeTags]

def lastRun (texts : List Char × List (List Char)) : List Char := texts.2.getLast?.getD texts.1

theorem suffix_lastRun {tail front : List Char} {texts : List Char × List (List Char)}
    (h : tail <:+ lastRun texts) : tail <:+ lastRun (front ++ texts.1, texts.2) := by
  unfold lastRun at *
  cases hlast : texts.2.getLast? with
  | none =>
    rw [hlast, Option.getD_none] at h
    exact h.trans (List.suffix_append front texts.1)
  | some run => rwa [hlast] at h

theorem backslashes_suffix_lastRun (n passed : Nat) (cs : List Char) :
    backslashes n <:+ lastRun (runs passed (cs ++ backslashes n)) := by
  have hnone : tagBody (backslashes n) = none := by
    rw [← List.append_nil (backslashes n)]
    exact tagBody_backslashes n rfl
  induction passed, cs using tag_induction with
  | nil passed =>
    have hruns : runs passed ([] ++ backslashes n) = (backslashes (passed + n), []) := by
      rw [List.nil_append, ← List.append_nil (backslashes n), count_passed runs_backslash,
        runs_nil]
    rw [hruns]
    exact ⟨backslashes passed, List.replicate_append_replicate⟩
  | backslash passed rest ih =>
    rw [List.cons_append, runs_backslash]
    exact ih
  | tag passed rest body after htag ih =>
    have happended : tag? (rest ++ backslashes n) = some (body, after ++ backslashes n) := by
      rw [tag?_append hnone, htag, Option.map_some]
    rw [List.cons_append, runs_tag happended]
    simpa [lastRun, List.getLast?_cons] using ih
  | bracket passed rest htag ih =>
    have happended : tag? (rest ++ backslashes n) = none := by
      rw [tag?_append hnone, htag, Option.map_none]
    rw [List.cons_append, runs_bracket happended, ← List.singleton_append, ← List.append_assoc]
    exact suffix_lastRun ih
  | other passed c rest hbackslash hopen ih =>
    rw [List.cons_append, runs_other hbackslash hopen, ← List.singleton_append,
      ← List.append_assoc]
    exact suffix_lastRun ih

theorem backslashes_suffix_showRuns {n : Nat} {texts : List Char × List (List Char)}
    (h : backslashes n <:+ lastRun texts) : backslashes n <:+ showRuns texts := by
  have hvisible : (backslashes n).filter (!isControl ·) = backslashes n := by
    rw [List.filter_eq_self]
    intro c hc
    rw [List.eq_of_mem_replicate hc]
    rfl
  have hcolon : ':' ∉ backslashes n := fun hc =>
    absurd (List.eq_of_mem_replicate hc) (by decide)
  obtain ⟨front, hfront⟩ := h
  have hlast : (texts.1 :: texts.2).getLast? = some (lastRun texts) := List.getLast?_cons
  obtain ⟨init, hinit⟩ := List.getLast?_eq_some_iff.mp hlast
  refine ⟨((init.flatMap showEmoji) ++ showEmoji front).filter (!isControl ·), ?_⟩
  rw [showRuns, hinit, List.flatMap_append, List.flatMap_singleton, ← hfront,
    showEmoji_append hcolon]
  simp only [List.filter_append, hvisible, List.append_assoc]

/-- A text that is shown unaltered when it is escaped. -/
structure Protected (s : String) : Prop where
  ending : endsInBackslash s.toList = false
  brackets : hasStray false s.toList = false
  codes : ∀ run ∈ (runs 0 s.toList).1 :: (runs 0 s.toList).2, hasEmoji run = false
  visible : ∀ c ∈ s.toList, isControl c = false

theorem Protected.of_count {s : String} (hending : endsInBackslash s.toList = false)
    (hbrackets : hasStray false s.toList = false) (hcolons : s.toList.count ':' ≤ 1)
    (hvisible : s.toList.all (!isControl ·) = true) : Protected s := by
  refine ⟨hending, hbrackets, fun run hrun => hasEmoji_of_count ?_, by simpa using hvisible⟩
  have hflat : ((runs 0 s.toList).1 :: (runs 0 s.toList).2).flatten.Sublist s.toList :=
    sublist_flatRuns 0 s.toList
  exact (((List.sublist_flatten_of_mem hrun).trans hflat).count_le ':').trans hcolons

theorem escapedShown_eq_iff {s : String} : escapedShown s = s ↔ Protected s := by
  have hchars : escapedShown s = s ↔ showRuns (runs 0 (beforeEscape s.toList)) = s.toList := by
    rw [escapedShown, ← String.toList_inj, String.toList_ofList]
  rw [hchars, beforeEscape, endsInBackslash_escapeTags]
  cases hends : endsInBackslash s.toList with
  | false =>
    rw [if_neg (by decide), showRuns_eq_iff]
    exact ⟨fun h => ⟨hends, h.1, h.2.1, h.2.2⟩, fun h => ⟨h.brackets, h.codes, h.visible⟩⟩
  | true =>
    -- two backslashes are shown at the end of a text with one
    obtain ⟨front, hfront, hlast⟩ := endsInBackslash_iff.mp hends
    rw [if_pos rfl]
    refine iff_of_false (fun h => hlast ?_) (fun h => ?_)
    · have htwo : s.toList ++ ['\\'] = front ++ backslashes 2 := by
        rw [hfront, List.append_assoc]
        rfl
      have hsuffix := backslashes_suffix_showRuns (backslashes_suffix_lastRun 2 0 front)
      rw [← htwo, h, hfront] at hsuffix
      obtain ⟨more, hmore⟩ := hsuffix
      have hback : backslashes 2 = ['\\'] ++ ['\\'] := rfl
      rw [hback, ← List.append_assoc] at hmore
      rw [← List.append_cancel_right hmore, List.getLast?_concat]
    · rw [h.ending] at hends
      cases hends

example : escapedShown "windbarbs://default(15)[kts]" = "windbarbs://default(15)[kts]" := by
  decide +kernel

end Markup
end WindSymbols
