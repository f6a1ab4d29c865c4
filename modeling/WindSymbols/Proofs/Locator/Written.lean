import WindSymbols.Proofs.Locator.Grammar
import WindSymbols.Proofs.Locator.Params
import WindSymbols.Proofs.Locator.SpeedText

/-! Locators written back. Whatever was read, however it was spelled, is written in one way, and the
text so written is read as the same locator again. -/

namespace WindSymbols.Locator

open Text

def plainText (name : List Char) (speed : Speed.Literal) (unit : List Char)
    (query : Option (List Char)) : List Char :=
  scheme ++ ("://".toList ++
    (name ++ '(' :: (speed.text ++ ')' :: '[' :: (unit ++ [']'])) ++ queryText query))

theorem scheme_separator : "windbarbs://".toList = scheme ++ "://".toList := by decide

theorem trimmed_plainText (name : List Char) (speed : Speed.Literal) (unit : List Char)
    (query : Option (List Char)) (h : NoBlankLast (query.getD [])) :
    Trimmed (plainText name speed unit query) where
  head c hc := by
    cases hc
    decide
  last := by
    have hsplit : plainText name speed unit query =
        scheme ++ ("://".toList ++ (name ++ '(' :: (speed.text ++ ')' :: '[' :: unit))) ++
          ']' :: queryText query := by
      simp [plainText]
    have hquery : NoBlankLast (queryText query) := by
      cases query with
      | none => exact noBlankLast_nil
      | some query => exact h.cons (by decide)
    rw [hsplit]
    exact (hquery.cons (by decide)).append_left _ (List.cons_ne_nil _ _)

theorem denotes_plainText {name unit : List Char} (query : Option (List Char))
    (speed : Speed.Literal) (hname : '(' ∉ name) (hblank : trim name ≠ []) (hunit : ']' ∉ unit)
    (hbare : trim unit ≠ []) (hquery : '?' ∉ name ∧ '?' ∉ unit) :
    Denotes (plainText name speed unit query)
      { symbolSet := .ofList (lower (trim name))
        speed := speed.value
        unit := .ofList (trim unit)
        params := query.elim [] Params.read
        text := .ofList (plainText name speed unit query) } := by
  have hclose : ')' ∉ speed.text := speed.not_mem_text (by decide)
  have hmark : '?' ∉ speed.text := speed.not_mem_text (by decide)
  have hrest : '?' ∉ '[' :: (unit ++ [']']) := by simp [hquery.2]
  have hscheme : lower scheme = scheme := by decide
  refine ⟨⟨scheme, name, speed.text, '[' :: (unit ++ [']']), query, hscheme, hname, hclose,
    speed.text_ne_nil, hquery.1, hmark, hrest⟩, unit, speed, rfl, hblank, ?_, ?_, rfl⟩
  · rw [(trimmed_of_ends unit (by decide) (by decide)).trim_eq]
    exact ⟨rfl, hunit, hbare⟩
  · exact speed.trimmed_text.trim_eq

def written (l : Locator) : String :=
  "windbarbs://" ++ l.symbolSet ++ "(" ++ .ofList (Speed.literalText l.speed) ++ ")[" ++ l.unit ++
    "]" ++
    if l.params = [] then "" else "?" ++ "&".intercalate (l.params.map fun p => p.1 ++ "=" ++ p.2)

def writtenQuery (params : Params) : Option (List Char) :=
  if params = [] then none else some params.queryChars

theorem toList_written (l : Locator) {speed : Speed.Literal}
    (hspeed : Speed.literalText l.speed = speed.text) :
    l.written.toList = plainText l.symbolSet.toList speed l.unit.toList (writtenQuery l.params) := by
  have hquery : (if l.params = [] then "" else
      "?" ++ "&".intercalate (l.params.map fun p => p.1 ++ "=" ++ p.2)).toList =
        queryText (writtenQuery l.params) := by
    unfold writtenQuery
    split
    · rfl
    · have hpairs : (l.params.map fun p => p.1 ++ "=" ++ p.2).map String.toList =
          l.params.map Params.pairChars := by
        simp [Params.pairChars]
      rw [String.toList_append, String.toList_intercalate, hpairs]
      rfl
  unfold written plainText
  simp only [String.toList_append, String.toList_ofList, hquery, hspeed, scheme_separator]
  simp

/-- What holds of the fields of every locator that was read. -/
structure Normal (l : Locator) : Prop where
  name_end : '(' ∉ l.symbolSet.toList
  name_ne_nil : l.symbolSet.toList ≠ []
  name_trimmed : Trimmed l.symbolSet.toList
  name_lower : lower l.symbolSet.toList = l.symbolSet.toList
  unit_end : ']' ∉ l.unit.toList
  unit_ne_nil : l.unit.toList ≠ []
  unit_trimmed : Trimmed l.unit.toList
  no_query : '?' ∉ l.symbolSet.toList ∧ '?' ∉ l.unit.toList
  params : l.params.Canonical

theorem Denotes.normal {t : List Char} {l : Locator} (h : Denotes t l) : Normal l := by
  obtain ⟨p, unit, speed, -, hname, ⟨hrest, hunit, hbare⟩, -, rfl⟩ := h
  have hopen : Caseless [('('.toNat, '('.toNat)] := by decide
  have hmark : Caseless [('?'.toNat, '?'.toNat)] := by decide +kernel
  have hunitMark : '?' ∉ unit := by
    intro h
    refine p.no_query.2.2 (mem_of_mem_trim ?_)
    rw [hrest]
    simp [h]
  constructor <;> simp only [String.toList_ofList]
  · exact fun h => p.name_end (mem_of_mem_trim ((mem_lower_iff hopen).mp h))
  · exact mt lower_eq_nil_iff.mp hname
  · exact trimmed_lower (trimmed_trim p.name)
  · exact lower_lower (trim p.name)
  · exact fun h => hunit (mem_of_mem_trim h)
  · exact hbare
  · exact trimmed_trim unit
  · exact ⟨fun h => p.no_query.1 (mem_of_mem_trim ((mem_lower_iff hmark).mp h)),
      fun h => hunitMark (mem_of_mem_trim h)⟩
  · rw [p.params_eq]
    exact Params.canonical_read _

theorem Normal.denotes_written {l : Locator} (h : Normal l) :
    Denotes l.written.toList { l with text := l.written } := by
  obtain ⟨speed, hspeed, hvalue⟩ := Speed.exists_literal l.speed
  have hblank : trim l.symbolSet.toList ≠ [] := by
    rw [h.name_trimmed.trim_eq]
    exact h.name_ne_nil
  have hbare : trim l.unit.toList ≠ [] := by
    rw [h.unit_trimmed.trim_eq]
    exact h.unit_ne_nil
  have hparams : (writtenQuery l.params).elim [] Params.read = l.params := by
    unfold writtenQuery
    split
    · rename_i hnil
      exact hnil.symm
    · exact Params.read_queryChars h.params
  have hdenotes := denotes_plainText (writtenQuery l.params) speed h.name_end hblank h.unit_end
    hbare h.no_query
  rw [← toList_written l hspeed, h.name_trimmed.trim_eq, h.unit_trimmed.trim_eq, h.name_lower,
    hvalue, hparams] at hdenotes
  simpa only [String.ofList_toList] using hdenotes

/-- Writing what was read and reading it again changes nothing but the text that is kept. -/
theorem read_written {text : Option String} {l : Locator} (h : read text = .ok l) :
    read (some l.written) = .ok { l with text := l.written } := by
  have hnormal := (read_eq_ok_iff.mp h).normal
  obtain ⟨speed, hspeed, -⟩ := Speed.exists_literal l.speed
  have htrimmed : Trimmed l.written.toList := by
    rw [toList_written l hspeed]
    refine trimmed_plainText _ _ _ _ ?_
    unfold writtenQuery
    split
    · exact noBlankLast_nil
    · exact Params.noBlankLast_queryChars hnormal.params.pairs
  rw [read_eq_ok_iff, Option.getD_some, htrimmed.trim_eq]
  exact hnormal.denotes_written

theorem read_written_of_blanks :
    ∃ l : Locator, read (some " WindBarbs:// Default (1e1)[ kts ]?A= b&c") = .ok l ∧
      l.written = "windbarbs://default(10.0)[kts]?a=b" ∧
      read (some l.written) = .ok { l with text := l.written } := by
  have hread : read (some " WindBarbs:// Default (1e1)[ kts ]?A= b&c") =
      .ok ⟨"default", .ofNat 10, "kts", [("a", "b")],
        "WindBarbs:// Default (1e1)[ kts ]?A= b&c"⟩ := by decide +kernel
  exact ⟨_, hread, by decide +kernel, read_written hread⟩

end WindSymbols.Locator
