import WindSymbols.Proofs.Console.Plain

/-! Which codes a text has. No emoji has a colon in it (`not_mem_emoji`), so that a text with the
code of an emoji is shown with fewer colons (`count_colon_showEmoji`), and without one it is shown
as it is (`showEmoji_of_hasEmoji`). A code has no blanks, so that none goes on from a text whose
colons have blanks after them (`showEmoji_lead`). -/

namespace WindSymbols

open Text

namespace Markup

/-! Codes. -/

theorem upToColon?_eq_some {cs code after : List Char} (h : upToColon? cs = some (code, after)) :
    cs = code ++ ':' :: after := by
  induction cs generalizing code with
  | nil => cases h
  | cons c rest ih =>
    rw [upToColon?] at h
    split at h
    · rename_i hcolon
      cases h
      rw [hcolon, List.nil_append]
    · split at h
      · cases h
      · obtain ⟨⟨tail, rest'⟩, htail, heq⟩ := Option.map_eq_some_iff.mp h
        cases heq
        rw [ih htail, List.cons_append]

theorem showEmoji_nil : showEmoji [] = [] := by
  rw [showEmoji]

theorem showEmoji_code {rest code after : List Char} (h : upToColon? rest = some (code, after)) :
    showEmoji (':' :: rest) = (emoji? code).getD (':' :: code ++ [':']) ++ showEmoji after := by
  rw [showEmoji, if_pos rfl]
  split
  · rename_i hsome
    rw [h] at hsome
    cases hsome
    rfl
  · rename_i hnone
    rw [h] at hnone
    cases hnone

theorem showEmoji_colon {rest : List Char} (h : upToColon? rest = none) :
    showEmoji (':' :: rest) = ':' :: showEmoji rest := by
  rw [showEmoji, if_pos rfl]
  split
  · rename_i hsome
    rw [h] at hsome
    cases hsome
  · rfl

theorem showEmoji_other {c : Char} (h : c ≠ ':') (rest : List Char) :
    showEmoji (c :: rest) = c :: showEmoji rest := by
  rw [showEmoji, if_neg h]

theorem code_induction {motive : List Char → Prop} (nil : motive [])
    (code : ∀ rest code after, upToColon? rest = some (code, after) → motive after →
      motive (':' :: rest))
    (colon : ∀ rest, upToColon? rest = none → motive rest → motive (':' :: rest))
    (other : ∀ c rest, c ≠ ':' → motive rest → motive (c :: rest)) (cs : List Char) :
    motive cs := by
  induction cs using showEmoji.induct with
  | case1 => exact nil
  | case2 rest name after hcode _ ih => exact code rest name after hcode ih
  | case3 rest hcode ih => exact colon rest hcode ih
  | case4 c rest hc ih => exact other c rest hc ih

def hasEmoji (cs : List Char) : Bool :=
  match cs with
  | [] => false
  | c :: rest =>
    if c = ':' then
      match h : upToColon? rest with
      | some (code, after) =>
        have : after.length < rest.length := upToColon?_length h
        (emoji? code).isSome || hasEmoji after
      | none => hasEmoji rest
    else hasEmoji rest
termination_by cs.length

theorem hasEmoji_code {rest code after : List Char} (h : upToColon? rest = some (code, after)) :
    hasEmoji (':' :: rest) = ((emoji? code).isSome || hasEmoji after) := by
  rw [hasEmoji, if_pos rfl]
  split
  · rename_i hsome
    rw [h] at hsome
    cases hsome
    rfl
  · rename_i hnone
    rw [h] at hnone
    cases hnone

theorem hasEmoji_colon {rest : List Char} (h : upToColon? rest = none) :
    hasEmoji (':' :: rest) = hasEmoji rest := by
  rw [hasEmoji, if_pos rfl]
  split
  · rename_i hsome
    rw [h] at hsome
    cases hsome
  · rfl

theorem hasEmoji_other {c : Char} (h : c ≠ ':') (rest : List Char) :
    hasEmoji (c :: rest) = hasEmoji rest := by
  rw [hasEmoji, if_neg h]

theorem showEmoji_of_hasEmoji {cs : List Char} (h : hasEmoji cs = false) : showEmoji cs = cs := by
  induction cs using code_induction with
  | nil => exact showEmoji_nil
  | code rest code after hcode ih =>
    rw [hasEmoji_code hcode, Bool.or_eq_false_iff] at h
    obtain ⟨hcode', hafter⟩ := h
    have hnone : emoji? code = none := by
      cases hemoji : emoji? code with
      | none => rfl
      | some emoji =>
        rw [hemoji] at hcode'
        cases hcode'
    rw [showEmoji_code hcode, hnone, ih hafter, Option.getD_none, upToColon?_eq_some hcode,
      List.append_assoc, List.cons_append, List.singleton_append]
  | colon rest hcode ih =>
    rw [hasEmoji_colon hcode] at h
    rw [showEmoji_colon hcode, ih h]
  | other c rest hc ih =>
    rw [hasEmoji_other hc] at h
    rw [showEmoji_other hc, ih h]

/-! Colons and backslashes. -/

/-- Colons and backslashes are encoded by bytes of their own, which no value of the tables has. -/
theorem emojiTables_bytes :
    (emojiTables.all fun table => table.all fun entry =>
      entry.2.toByteArray.data.toList.all fun b => b != 58 && b != 92) = true := by
  simp only [emojiTables, List.all_cons, List.all_nil, Bool.and_true, Bool.and_eq_true]
  -- one table at a time, as all of them at once take too much memory
  repeat' apply And.intro
  all_goals decide +kernel

theorem mem_bytes {s : String} {c : Char} {b : UInt8} (h : c ∈ s.toList)
    (hb : String.utf8EncodeChar c = [b]) : b ∈ s.toByteArray.data.toList := by
  have hbytes : s.toByteArray.data.toList = s.toList.flatMap String.utf8EncodeChar := by
    rw [← String.ofList_toList (s := s), String.toByteArray_ofList, List.utf8Encode,
      List.toList_data_toByteArray, String.toList_ofList]
  rw [hbytes, List.mem_flatMap]
  exact ⟨c, h, by rw [hb, List.mem_singleton]⟩

theorem not_mem_emoji {code emoji : List Char} (h : emoji? code = some emoji) :
    ':' ∉ emoji ∧ '\\' ∉ emoji := by
  have hlooks : ∀ look ∈ looks, ':' ∉ look.2 ∧ '\\' ∉ look.2 := by decide
  have hlook : ':' ∉ (splitLook code).2 ∧ '\\' ∉ (splitLook code).2 := by
    unfold splitLook
    split
    · rename_i ending look hfind
      exact hlooks (ending, look) (List.mem_of_find?_eq_some hfind)
    · exact ⟨List.not_mem_nil, List.not_mem_nil⟩
  obtain ⟨value, hvalue, rfl⟩ := Option.map_eq_some_iff.mp h
  obtain ⟨table, htable, hlookup⟩ := List.exists_of_findSome?_eq_some hvalue
  obtain ⟨before, after, hentries, -⟩ := List.lookup_eq_some_iff.mp hlookup
  have hentry : (String.ofList (lower (splitLook code).1), value) ∈ table := by
    rw [hentries]
    exact List.mem_append_right before List.mem_cons_self
  have hbytes := List.all_eq_true.mp
    (List.all_eq_true.mp (List.all_eq_true.mp emojiTables_bytes table htable) _ hentry)
  rw [List.mem_append, not_or, List.mem_append, not_or]
  refine ⟨⟨fun hcolon => ?_, hlook.1⟩, ⟨fun hbackslash => ?_, hlook.2⟩⟩
  · exact absurd (hbytes 58 (mem_bytes hcolon (by decide))) (by decide)
  · exact absurd (hbytes 92 (mem_bytes hbackslash (by decide))) (by decide)

/-- An emoji takes the place of two colons at least. -/
theorem count_colon_showEmoji (cs : List Char) :
    (showEmoji cs).count ':' + (if hasEmoji cs then 2 else 0) ≤ cs.count ':' := by
  induction cs using code_induction with
  | nil =>
    rw [showEmoji_nil, hasEmoji]
    decide
  | code rest code after hcode ih =>
    rw [showEmoji_code hcode, hasEmoji_code hcode, upToColon?_eq_some hcode]
    cases hemoji : emoji? code with
    | none =>
      simp only [Option.getD_none, Option.isSome_none, Bool.false_or, List.count_append,
        List.count_cons_self, List.count_nil]
      omega
    | some emoji =>
      have hnone := List.count_eq_zero_of_not_mem (not_mem_emoji hemoji).1
      simp only [Option.getD_some, Option.isSome_some, Bool.true_or, List.count_append,
        List.count_cons_self, hnone, if_true]
      omega
  | colon rest hcode ih =>
    rw [showEmoji_colon hcode, hasEmoji_colon hcode, List.count_cons_self, List.count_cons_self]
    omega
  | other c rest hc ih =>
    rw [showEmoji_other hc, hasEmoji_other hc, List.count_cons_of_ne hc, List.count_cons_of_ne hc]
    exact ih

theorem hasEmoji_of_count {cs : List Char} (h : cs.count ':' ≤ 1) : hasEmoji cs = false := by
  have hshown := count_colon_showEmoji cs
  cases hemoji : hasEmoji cs with
  | false => rfl
  | true =>
    rw [hemoji, if_pos rfl] at hshown
    omega

theorem count_backslash_showEmoji (cs : List Char) :
    (showEmoji cs).count '\\' ≤ cs.count '\\' := by
  induction cs using code_induction with
  | nil =>
    rw [showEmoji_nil]
  | code rest code after hcode ih =>
    rw [showEmoji_code hcode, upToColon?_eq_some hcode]
    cases hemoji : emoji? code with
    | none =>
      simp only [Option.getD_none, List.count_append, List.count_cons, List.count_nil]
      omega
    | some emoji =>
      have hnone := List.count_eq_zero_of_not_mem (not_mem_emoji hemoji).2
      simp only [Option.getD_some, List.count_append, List.count_cons, hnone]
      omega
  | colon rest hcode ih =>
    rw [showEmoji_colon hcode, List.count_cons, List.count_cons]
    omega
  | other c rest hc ih =>
    rw [showEmoji_other hc, List.count_cons, List.count_cons]
    omega

/-! What stands before and after a text. -/

theorem upToColon?_of_no_colon {cs : List Char} (h : ':' ∉ cs) : upToColon? cs = none := by
  cases hcode : upToColon? cs with
  | none => rfl
  | some parts =>
    rw [upToColon?_eq_some hcode] at h
    exact absurd (List.mem_append_right _ List.mem_cons_self) h

theorem upToColon?_append {tail : List Char} (h : ':' ∉ tail) (cs : List Char) :
    upToColon? (cs ++ tail) = (upToColon? cs).map fun parts => (parts.1, parts.2 ++ tail) := by
  induction cs with
  | nil => exact upToColon?_of_no_colon h
  | cons c rest ih =>
    rw [List.cons_append, upToColon?, upToColon?]
    split
    · rfl
    · split
      · rfl
      · rw [ih, Option.map_map, Option.map_map]
        rfl

theorem showEmoji_append {tail : List Char} (h : ':' ∉ tail) (cs : List Char) :
    showEmoji (cs ++ tail) = showEmoji cs ++ tail := by
  induction cs using code_induction with
  | nil =>
    rw [List.nil_append, showEmoji_of_no_colon h, showEmoji_nil, List.nil_append]
  | code rest code after hcode ih =>
    have happended : upToColon? (rest ++ tail) = some (code, after ++ tail) := by
      rw [upToColon?_append h, hcode, Option.map_some]
    rw [List.cons_append, showEmoji_code happended, showEmoji_code hcode, ih, List.append_assoc]
  | colon rest hcode ih =>
    have happended : upToColon? (rest ++ tail) = none := by
      rw [upToColon?_append h, hcode, Option.map_none]
    rw [List.cons_append, showEmoji_colon happended, showEmoji_colon hcode, ih, List.cons_append]
  | other c rest hc ih =>
    rw [List.cons_append, showEmoji_other hc, showEmoji_other hc, ih, List.cons_append]

/-- A text from which no code goes on: each of its colons has a blank after it. -/
def isLead : List Char → Bool
  | [] => true
  | ':' :: ' ' :: rest => isLead rest
  | c :: rest => isUnmarked c && isLead rest

theorem showEmoji_lead {lead : List Char} (h : isLead lead = true) (cs : List Char) :
    showEmoji (lead ++ cs) = lead ++ showEmoji cs := by
  induction lead using isLead.induct with
  | case1 => rfl
  | case2 rest ih =>
    have hblank : upToColon? (' ' :: (rest ++ cs)) = none := rfl
    rw [List.cons_append, List.cons_append, showEmoji_colon hblank, showEmoji_other (by decide),
      ih h]
    rfl
  | case3 c rest hnot ih =>
    rw [isLead, Bool.and_eq_true] at h
    · rw [List.cons_append, showEmoji_other (isUnmarked_iff.mp h.1).2.2.1, ih h.2,
        List.cons_append]
    · exact hnot

end Markup
end WindSymbols
