import WindSymbols.Proofs.Console.Unaltered
import WindSymbols.Proofs.Failure

/-! Which texts are shown unaltered as they are, without being escaped. Besides what escaping does
not protect from, such a text must not have tags (`plain_lead_iff`), and before the tag that closes
its style it must not end in a backslash (`plain_styled_iff`). -/

namespace WindSymbols

open Text

namespace Markup

def hasTag : List Char → Bool
  | [] => false
  | c :: rest => (c = '[' && (tag? rest).isSome) || hasTag rest

/-! Pieces. -/

def Piece.text : Piece → List Char
  | shown cs => cs
  | tag _ => []

def flatPieces (passed : Nat) (cs : List Char) : List Char :=
  (pieces passed cs).1 ++ ((pieces passed cs).2.map Piece.text).flatten

theorem flatPieces_tag {rest body after : List Char} (h : tag? rest = some (body, after))
    (passed : Nat) :
    flatPieces passed ('[' :: rest) = backslashes (passed / 2) ++
      ((if passed % 2 = 1 then '[' :: body ++ [']'] else []) ++ flatPieces 0 after) := by
  rw [flatPieces, pieces_tag h, flatPieces]
  split <;> rfl

theorem flatPieces_bracket {rest : List Char} (h : tag? rest = none) (passed : Nat) :
    flatPieces passed ('[' :: rest) = backslashes (passed - 1) ++ '[' :: flatPieces 0 rest := by
  rw [flatPieces, pieces_bracket h, flatPieces, List.append_assoc, List.cons_append]

theorem flatPieces_other {c : Char} (hbackslash : c ≠ '\\') (hopen : c ≠ '[') (passed : Nat)
    (rest : List Char) :
    flatPieces passed (c :: rest) = backslashes passed ++ c :: flatPieces 0 rest := by
  rw [flatPieces, pieces_other hbackslash hopen, flatPieces, List.append_assoc, List.cons_append]

theorem sublist_flatPieces (passed : Nat) (cs : List Char) :
    (flatPieces passed cs).Sublist (flatRuns passed cs) := by
  induction passed, cs using tag_induction with
  | nil passed =>
    rw [flatPieces, pieces_nil, flatRuns_nil, List.map_nil, List.flatten_nil, List.append_nil]
  | backslash passed rest ih =>
    rw [flatRuns_backslash, flatPieces, pieces_backslash]
    exact ih
  | tag passed rest body after htag ih =>
    have hpiece : (if passed % 2 = 1 then '[' :: body ++ [']'] else []).Sublist
        ('[' :: body ++ [']']) := by
      split
      · exact List.Sublist.refl _
      · exact List.nil_sublist _
    rw [flatRuns_tag htag, flatPieces_tag htag]
    refine (sublist_backslashes (Nat.div_le_self passed 2)).append ?_
    rw [← List.singleton_append (l := flatRuns 0 after), ← List.append_assoc]
    exact hpiece.append ih
  | bracket passed rest htag ih =>
    rw [flatRuns_bracket htag, flatPieces_bracket htag]
    exact (List.Sublist.refl _).append (ih.cons_cons _)
  | other passed c rest hbackslash hopen ih =>
    rw [flatRuns_other hbackslash hopen, flatPieces_other hbackslash hopen]
    exact (List.Sublist.refl _).append (ih.cons_cons _)

theorem length_flatPieces_lt {passed : Nat} {cs : List Char} (h : hasTag cs = true) :
    (flatPieces passed cs).length < (flatRuns passed cs).length := by
  induction passed, cs using tag_induction with
  | nil passed => cases h
  | backslash passed rest ih =>
    rw [flatRuns_backslash, flatPieces, pieces_backslash]
    exact ih (by simpa [hasTag] using h)
  | tag passed rest body after htag ih =>
    have hafter := (sublist_flatPieces 0 after).length_le
    rw [flatRuns_tag htag, flatPieces_tag htag]
    split
    · simp only [List.length_append, List.length_cons, List.length_nil, length_backslashes]
      omega
    · simp only [List.length_append, List.length_cons, List.length_nil, length_backslashes]
      omega
  | bracket passed rest htag ih =>
    have hrest := ih (by simpa [hasTag, htag] using h)
    rw [flatRuns_bracket htag, flatPieces_bracket htag]
    simpa using hrest
  | other passed c rest hbackslash hopen ih =>
    have hrest := ih (by simpa [hasTag, hopen] using h)
    rw [flatRuns_other hbackslash hopen, flatPieces_other hbackslash hopen]
    simpa using hrest

theorem pieces_of_hasTag {passed : Nat} {cs : List Char} (h : hasTag cs = false) :
    pieces passed cs = ((runs passed cs).1, []) ∧ (runs passed cs).2 = [] := by
  induction passed, cs using tag_induction with
  | nil passed =>
    rw [pieces_nil, runs_nil]
    exact ⟨rfl, rfl⟩
  | backslash passed rest ih =>
    rw [pieces_backslash, runs_backslash]
    exact ih (by simpa [hasTag] using h)
  | tag passed rest body after htag ih => simp [hasTag, htag] at h
  | bracket passed rest htag ih =>
    obtain ⟨hpieces, hruns⟩ := ih (by simpa [hasTag, htag] using h)
    rw [pieces_bracket htag, runs_bracket htag, hpieces]
    exact ⟨rfl, hruns⟩
  | other passed c rest hbackslash hopen ih =>
    obtain ⟨hpieces, hruns⟩ := ih (by simpa [hasTag, hopen] using h)
    rw [pieces_other hbackslash hopen, runs_other hbackslash hopen, hpieces]
    exact ⟨rfl, hruns⟩

/-- A text that is shown unaltered as it is. -/
structure Verbatim (s : String) : Prop where
  tags : hasTag s.toList = false
  brackets : hasStray false s.toList = false
  codes : hasEmoji s.toList = false
  visible : ∀ c ∈ s.toList, isControl c = false

theorem Verbatim.of_count {s : String} (htags : hasTag s.toList = false)
    (hbrackets : hasStray false s.toList = false) (hcolons : s.toList.count ':' ≤ 1)
    (hvisible : s.toList.all (!isControl ·) = true) : Verbatim s :=
  ⟨htags, hbrackets, hasEmoji_of_count hcolons, by simpa using hvisible⟩

def pieceTexts (cs : List Char) : List Char × List (List Char) :=
  ((pieces 0 cs).1, (pieces 0 cs).2.map Piece.text)

theorem flatten_pieceTexts (cs : List Char) :
    ((pieceTexts cs).1 :: (pieceTexts cs).2).flatten = flatPieces 0 cs :=
  List.flatten_cons

theorem showRuns_pieceTexts_eq_iff {s : String} :
    showRuns (pieceTexts s.toList) = s.toList ↔ Verbatim s := by
  have hflat := flatten_pieceTexts s.toList
  have hpieces := sublist_flatPieces 0 s.toList
  have hruns : (flatRuns 0 s.toList).Sublist s.toList := sublist_flatRuns 0 s.toList
  have hstray : flatRuns 0 s.toList = s.toList ↔ hasStray false s.toList = false :=
    flatRuns_eq_iff 0 s.toList
  have hsublist :
      ((pieceTexts s.toList).1 :: (pieceTexts s.toList).2).flatten.Sublist s.toList := by
    rw [hflat]
    exact hpieces.trans hruns
  have huntagged : hasTag s.toList = false →
      pieceTexts s.toList = (flatRuns 0 s.toList, []) := by
    intro htag
    obtain ⟨hpieces, hmore⟩ : pieces 0 s.toList = _ ∧ (runs 0 s.toList).2 = [] :=
      pieces_of_hasTag htag
    rw [pieceTexts, hpieces, flatRuns, hmore, List.flatten_nil, List.append_nil]
    rfl
  rw [showRuns, shown_eq_iff hsublist, hflat]
  constructor
  · rintro ⟨hall, hemoji, hvisible⟩
    rw [hall] at hpieces
    have hwhole := hruns.antisymm hpieces
    have htag : hasTag s.toList = false := by
      cases htag : hasTag s.toList with
      | false => rfl
      | true =>
        have hlength : (flatPieces 0 s.toList).length < (flatRuns 0 s.toList).length :=
          length_flatPieces_lt htag
        rw [hall, hwhole] at hlength
        exact absurd hlength (Nat.lt_irrefl _)
    rw [huntagged htag, hwhole] at hemoji
    exact ⟨htag, hstray.mp hwhole, hemoji _ List.mem_cons_self, hvisible⟩
  · intro h
    have hwhole := hstray.mpr h.brackets
    rw [← hflat, huntagged h.tags, hwhole]
    refine ⟨by rw [List.flatten_singleton], ?_, h.visible⟩
    intro text htext
    rw [List.mem_singleton.mp htext]
    exact h.codes

theorem shown_eq_ok {opened : List Opened} {ps : List Piece} {out : List Char}
    (h : shown opened ps = .ok out) : out = (ps.map Piece.text).flatMap showEmoji := by
  induction ps generalizing opened out with
  | nil =>
    cases h
    rfl
  | cons p rest ih =>
    rw [List.map_cons, List.flatMap_cons]
    cases p with
    | shown cs =>
      rw [shown] at h
      cases hrest : shown opened rest with
      | error fault =>
        rw [hrest] at h
        cases h
      | ok shownRest =>
        rw [hrest] at h
        cases h
        rw [ih hrest, Piece.text]
    | tag body =>
      obtain ⟨next, -, hnext⟩ := exists_of_bind_eq_ok h
      rw [ih hnext, Piece.text, showEmoji_nil, List.nil_append]

theorem plainChars_eq_ok {cs out : List Char} (h : plainChars cs = .ok out) :
    out = showRuns (pieceTexts cs) := by
  obtain ⟨all, hall, rfl⟩ : ∃ all, shown [] (.shown (pieces 0 cs).1 :: (pieces 0 cs).2) = .ok all ∧
      all.filter (!isControl ·) = out := by
    unfold plainChars at h
    cases hshown : shown [] (.shown (pieces 0 cs).1 :: (pieces 0 cs).2) with
    | error fault =>
      simp only [hshown] at h
      cases h
    | ok all =>
      simp only [hshown] at h
      cases h
      exact ⟨all, rfl, rfl⟩
  rw [shown_eq_ok hall]
  rfl

theorem plain_eq_ok_iff {s t : String} : plain s = .ok t ↔ plainChars s.toList = .ok t.toList := by
  unfold plain
  cases plainChars s.toList with
  | error fault => exact ⟨nofun, nofun⟩
  | ok out =>
    have hout : (Except.ok out : Except MarkupFault (List Char)).map String.ofList =
        .ok (.ofList out) := rfl
    rw [hout, Except.ok.injEq, Except.ok.injEq, ← String.toList_inj, String.toList_ofList]

/-! What is printed before a text. -/

theorem of_isLead {lead : List Char} (h : isLead lead = true) :
    ∀ c ∈ lead, c ≠ '\\' ∧ c ≠ '[' ∧ isControl c = false := by
  induction lead using isLead.induct with
  | case1 => exact List.forall_mem_nil _
  | case2 rest ih =>
    rw [List.forall_mem_cons, List.forall_mem_cons]
    exact ⟨by decide, by decide, ih h⟩
  | case3 c rest hnot ih =>
    rw [isLead, Bool.and_eq_true] at h
    · have hc := isUnmarked_iff.mp h.1
      simpa [hc] using ih h.2
    · exact hnot

theorem pieces_lead {lead : List Char} (h : isLead lead = true) (cs : List Char) :
    pieces 0 (lead ++ cs) = (lead ++ (pieces 0 cs).1, (pieces 0 cs).2) := by
  have hlead := of_isLead h
  clear h
  induction lead with
  | nil => rfl
  | cons c rest ih =>
    obtain ⟨hbackslash, hopen, -⟩ := hlead c List.mem_cons_self
    rw [List.cons_append, pieces_other hbackslash hopen,
      ih fun d hd => hlead d (List.mem_cons_of_mem c hd)]
    rfl

theorem showRuns_lead {lead : List Char} (h : isLead lead = true)
    (texts : List Char × List (List Char)) :
    showRuns (lead ++ texts.1, texts.2) = lead ++ showRuns texts := by
  have hvisible : lead.filter (!isControl ·) = lead := by
    rw [List.filter_eq_self]
    intro c hc
    rw [(of_isLead h c hc).2.2, Bool.not_false]
  unfold showRuns
  rw [List.flatMap_cons, List.flatMap_cons, showEmoji_lead h, List.append_assoc,
    List.filter_append, hvisible]

theorem pieceTexts_lead {lead : List Char} (h : isLead lead = true) (cs : List Char) :
    pieceTexts (lead ++ cs) = (lead ++ (pieceTexts cs).1, (pieceTexts cs).2) := by
  unfold pieceTexts
  rw [pieces_lead h]

theorem plainChars_of_hasTag {cs : List Char} (h : hasTag cs = false) :
    plainChars cs = .ok (showRuns (pieceTexts cs)) := by
  unfold plainChars pieceTexts
  rw [(pieces_of_hasTag h).1]
  rfl

theorem hasTag_lead {lead : List Char} (h : isLead lead = true) (cs : List Char) :
    hasTag (lead ++ cs) = hasTag cs := by
  have hlead := of_isLead h
  clear h
  induction lead with
  | nil => rfl
  | cons c rest ih =>
    rw [List.cons_append, hasTag, ih fun d hd => hlead d (List.mem_cons_of_mem c hd)]
    simp [(hlead c List.mem_cons_self).2.1]

/-- A text after a title is shown unaltered if and only if it is so by itself. -/
theorem plain_lead_iff {lead s : String} (h : isLead lead.toList = true) :
    plain (lead ++ s) = .ok (lead ++ s) ↔ Verbatim s := by
  rw [plain_eq_ok_iff, String.toList_append]
  constructor
  · intro hplain
    have hshown := plainChars_eq_ok hplain
    rw [pieceTexts_lead h, showRuns_lead h] at hshown
    exact showRuns_pieceTexts_eq_iff.mp (List.append_cancel_left hshown).symm
  · intro hs
    have htag : hasTag (lead.toList ++ s.toList) = false := by
      rw [hasTag_lead h, hs.tags]
    rw [plainChars_of_hasTag htag, pieceTexts_lead h, showRuns_lead h,
      showRuns_pieceTexts_eq_iff.mpr hs]

/-! What is printed in a style. -/

theorem getLast?_append_cons {xs ys : List Char} {c d : Char} (h : c ≠ d) :
    (xs ++ c :: ys).getLast? = some d ↔ ys.getLast? = some d := by
  rw [List.getLast?_append, List.getLast?_cons]
  cases ys.getLast? <;> simp [h]

def closing : List Char := ['[', '/', ']']

theorem tagBody_closing : tagBody closing = none := rfl

theorem pieces_closing : pieces 0 closing = ([], [.tag ['/'], .shown []]) := by
  have htag : tag? ['/', ']'] = some (['/'], []) := rfl
  rw [closing, pieces_tag htag, pieces_nil]
  rfl

theorem getLast?_after {passed : Nat} {rest body after : List Char}
    (h : tag? rest = some (body, after)) :
    (backslashes passed ++ '[' :: rest).getLast? = some '\\' ↔ after.getLast? = some '\\' := by
  rw [(tag?_eq_some h).1, ← List.cons_append, ← List.append_assoc,
    getLast?_append_cons (by decide)]

theorem pieces_append_closing {passed : Nat} {cs : List Char}
    (h : (backslashes passed ++ cs).getLast? ≠ some '\\') :
    pieces passed (cs ++ closing) =
      ((pieces passed cs).1, (pieces passed cs).2 ++ [.tag ['/'], .shown []]) := by
  induction passed, cs using tag_induction with
  | nil passed =>
    cases passed with
    | zero =>
      rw [List.nil_append, pieces_closing, pieces_nil]
      rfl
    | succ n =>
      rw [← backslashes_append_cons, List.getLast?_concat] at h
      exact absurd rfl h
  | backslash passed rest ih =>
    rw [backslashes_append_cons] at h
    rw [List.cons_append, pieces_backslash, pieces_backslash, ih h]
  | tag passed rest body after htag ih =>
    have happended : tag? (rest ++ closing) = some (body, after ++ closing) := by
      rw [tag?_append tagBody_closing, htag, Option.map_some]
    have hafter := ih fun hlast => h ((getLast?_after htag).mpr hlast)
    rw [List.cons_append, pieces_tag happended, pieces_tag htag, hafter]
    rfl
  | bracket passed rest htag ih =>
    have happended : tag? (rest ++ closing) = none := by
      rw [tag?_append tagBody_closing, htag, Option.map_none]
    have hrest := ih fun hlast => h ((getLast?_append_cons (by decide)).mpr hlast)
    rw [List.cons_append, pieces_bracket happended, pieces_bracket htag, hrest]
  | other passed c rest hbackslash hopen ih =>
    have hrest := ih fun hlast => h ((getLast?_append_cons hbackslash).mpr hlast)
    rw [List.cons_append, pieces_other hbackslash hopen, pieces_other hbackslash hopen, hrest]

theorem count_backslashes (n : Nat) : (backslashes n).count '\\' = n := List.count_replicate_self

/-- Of the backslashes at the end of a text, not all are shown before a tag. -/
theorem count_flatPieces_lt {passed : Nat} {cs : List Char}
    (h : (backslashes passed ++ cs).getLast? = some '\\') :
    (flatPieces passed (cs ++ closing)).count '\\' < passed + cs.count '\\' := by
  induction passed, cs using tag_induction with
  | nil passed =>
    cases passed with
    | zero => cases h
    | succ n =>
      have htag : tag? ['/', ']'] = some (['/'], []) := rfl
      rw [List.nil_append, closing, flatPieces_tag htag, flatPieces, pieces_nil]
      split <;> simp [count_backslashes] <;> omega
  | backslash passed rest ih =>
    rw [backslashes_append_cons] at h
    have hrest := ih h
    rw [flatPieces] at hrest
    rw [List.cons_append, flatPieces, pieces_backslash, List.count_cons_self]
    omega
  | tag passed rest body after htag ih =>
    have happended : tag? (rest ++ closing) = some (body, after ++ closing) := by
      rw [tag?_append tagBody_closing, htag, Option.map_some]
    have hafter := ih ((getLast?_after htag).mp h)
    rw [List.cons_append, flatPieces_tag happended, (tag?_eq_some htag).1]
    split <;> simp [count_backslashes] <;> omega
  | bracket passed rest htag ih =>
    have happended : tag? (rest ++ closing) = none := by
      rw [tag?_append tagBody_closing, htag, Option.map_none]
    have hrest := ih ((getLast?_append_cons (by decide)).mp h)
    rw [List.cons_append, flatPieces_bracket happended]
    simp [count_backslashes]
    omega
  | other passed c rest hbackslash hopen ih =>
    have hrest := ih ((getLast?_append_cons hbackslash).mp h)
    rw [List.cons_append, flatPieces_other hbackslash hopen, List.count_append,
      List.count_cons_of_ne hbackslash, List.count_cons_of_ne hbackslash, count_backslashes]
    omega

theorem count_showRuns (texts : List Char × List (List Char)) :
    (showRuns texts).count '\\' ≤ (texts.1 :: texts.2).flatten.count '\\' := by
  have htexts : ∀ texts : List (List Char),
      (texts.flatMap showEmoji).count '\\' ≤ texts.flatten.count '\\' := by
    intro texts
    induction texts with
    | nil => exact Nat.le_refl 0
    | cons text rest ih =>
      rw [List.flatMap_cons, List.flatten_cons, List.count_append, List.count_append]
      exact Nat.add_le_add (count_backslash_showEmoji text) ih
  exact Nat.le_trans (List.filter_sublist.count_le _) (htexts _)

theorem showRuns_append_closing {cs : List Char} (h : cs.getLast? ≠ some '\\') :
    showRuns (pieceTexts (cs ++ closing)) = showRuns (pieceTexts cs) := by
  have hpieces : pieces 0 (cs ++ closing) =
      ((pieces 0 cs).1, (pieces 0 cs).2 ++ [.tag ['/'], .shown []]) := pieces_append_closing h
  unfold pieceTexts showRuns
  rw [hpieces]
  simp [Piece.text, showEmoji_nil]

def IsStyle (style : List Char) : Prop :=
  (∀ rest, tag? (style ++ ']' :: rest) = some (style, rest)) ∧
    ∃ opened, applyTag [] style = .ok [opened] ∧ applyTag [opened] ['/'] = .ok []

theorem applyTag_closing {opened : Opened} (h : opened.name.startsWith "@" = false) :
    applyTag [opened] ['/'] = .ok [] := by
  have htrim : trim [] = [] := by decide
  have hcheck : opened.check = .ok () := by
    rw [Opened.check, h, Bool.false_and, if_neg (by decide)]
  have hname : ((cut? ['='] ([] : List Char)).map Prod.fst).getD [] = [] := rfl
  simp only [applyTag, hname, close, htrim, if_true, hcheck]
  rfl

theorem isStyle_red : IsStyle "red".toList :=
  ⟨fun _ => rfl, ⟨"red", none⟩, rfl, applyTag_closing (by simp)⟩

theorem isStyle_dim : IsStyle "dim".toList :=
  ⟨fun _ => rfl, ⟨"dim", none⟩, rfl, applyTag_closing (by simp)⟩

section

variable {style lead : List Char} (hstyle : IsStyle style) (hlead : isLead lead = true)

include hstyle hlead

theorem pieces_styled (cs : List Char) :
    pieces 0 ('[' :: style ++ ']' :: (lead ++ cs)) =
      ([], .tag style :: .shown (lead ++ (pieces 0 cs).1) :: (pieces 0 cs).2) := by
  rw [List.cons_append, pieces_tag (hstyle.1 _), pieces_lead hlead]
  rfl

theorem showRuns_styled (cs : List Char) :
    showRuns (pieceTexts ('[' :: style ++ ']' :: (lead ++ cs))) =
      lead ++ showRuns (pieceTexts cs) := by
  rw [← showRuns_lead hlead, pieceTexts, pieces_styled hstyle hlead]
  unfold showRuns pieceTexts
  simp only [List.map_cons, Piece.text, List.flatMap_cons, showEmoji_nil, List.nil_append]

/-- A text in a style is shown unaltered if and only if it is so by itself and does not end in a
backslash, which would be taken for one before the closing tag. -/
theorem plainChars_styled_iff {s : String} :
    plainChars ('[' :: style ++ ']' :: (lead ++ (s.toList ++ closing))) =
        .ok (lead ++ s.toList) ↔
      Verbatim s ∧ s.toList.getLast? ≠ some '\\' := by
  constructor
  · intro hplain
    have hs := plainChars_eq_ok hplain
    rw [showRuns_styled hstyle hlead] at hs
    replace hs := List.append_cancel_left hs
    have hlast : s.toList.getLast? ≠ some '\\' := by
      intro hlast
      have hless : (flatPieces 0 (s.toList ++ closing)).count '\\' <
          0 + s.toList.count '\\' := count_flatPieces_lt hlast
      have hcount := count_showRuns (pieceTexts (s.toList ++ closing))
      rw [← hs, flatten_pieceTexts] at hcount
      omega
    rw [showRuns_append_closing hlast] at hs
    exact ⟨showRuns_pieceTexts_eq_iff.mp hs.symm, hlast⟩
  · rintro ⟨hs, hlast⟩
    have hclosing : pieces 0 (s.toList ++ closing) =
        ((pieces 0 s.toList).1, (pieces 0 s.toList).2 ++ [.tag ['/'], .shown []]) :=
      pieces_append_closing hlast
    obtain ⟨hpieces, -⟩ : pieces 0 s.toList = ((runs 0 s.toList).1, []) ∧ _ :=
      pieces_of_hasTag hs.tags
    have hshown := showRuns_styled hstyle hlead (s.toList ++ closing)
    rw [showRuns_append_closing hlast, showRuns_pieceTexts_eq_iff.mpr hs] at hshown
    rw [← hshown]
    obtain ⟨-, opened, hopen, hclose⟩ := id hstyle
    unfold plainChars pieceTexts
    rw [pieces_styled hstyle hlead, hclosing, hpieces]
    simp only [List.nil_append, shown, hopen, hclose, ok_bind]
    simp [Except.map, showRuns, Piece.text, showEmoji_nil]

end

theorem plain_styled_iff {opening lead s : String} {style : List Char} (hstyle : IsStyle style)
    (hlead : isLead lead.toList = true)
    (hopening : opening.toList = '[' :: style ++ ']' :: lead.toList) :
    plain (opening ++ s ++ "[/]") = .ok (lead ++ s) ↔
      Verbatim s ∧ s.toList.getLast? ≠ some '\\' := by
  have hclosing : "[/]".toList = closing := by decide
  have hchars : (opening ++ s ++ "[/]").toList =
      '[' :: style ++ ']' :: (lead.toList ++ (s.toList ++ closing)) := by
    rw [String.toList_append, String.toList_append, hopening, hclosing]
    simp only [List.cons_append, List.append_assoc]
  rw [plain_eq_ok_iff, hchars, String.toList_append, plainChars_styled_iff hstyle hlead]

end Markup
end WindSymbols
