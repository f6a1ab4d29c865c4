import WindSymbols.Proofs.Locator.Written

/-! A query behind a text that has none. Blanks at the end of the text then stand between the unit
and the query, where they mean nothing, so the locator gets the parameters of the query and is
otherwise the same (`read_append_query`). -/

namespace WindSymbols.Locator

open Text

namespace Pieces

variable {p : Pieces} {blanks : List Char}

def ask (p : Pieces) {blanks : List Char} (hblanks : '?' ∉ blanks) (query : List Char) :
    Pieces where
  __ := p
  rest := p.rest ++ blanks
  query := some query
  no_query := by
    obtain ⟨hname, hspeed, hrest⟩ := p.no_query
    exact ⟨hname, hspeed, by simp [hrest, hblanks]⟩

theorem query_eq_none (h : '?' ∉ p.text) : p.query = none := by
  cases hquery : p.query with
  | none => rfl
  | some query =>
    simp [text, hquery, queryText] at h

theorem text_ask (hquery : p.query = none) (hblanks : '?' ∉ blanks) (query : List Char) :
    (p.ask hblanks query).text = p.text ++ (blanks ++ '?' :: query) := by
  simp [text, body, ask, hquery, queryText]

end Pieces

variable {t : List Char} {l : Locator}

theorem Denotes.params_eq_nil (h : Denotes t l) (hfree : '?' ∉ t) : l.params = [] := by
  obtain ⟨p, unit, lit, rfl, -, -, -, rfl⟩ := h
  rw [Pieces.params, Pieces.query_eq_none hfree]
  rfl

theorem params_eq_nil_of_read {text : String} (hread : read (some text) = .ok l)
    (hfree : '?' ∉ text.toList) : l.params = [] :=
  (read_eq_ok_iff.mp hread).params_eq_nil fun hmem => hfree (mem_of_mem_trim hmem)

theorem Denotes.append_query (h : Denotes t l) (hfree : '?' ∉ t) {blanks : List Char}
    (hblanks : ∀ c ∈ blanks, isBlank c = true) (query : List Char) :
    Denotes (t ++ (blanks ++ '?' :: query))
      { l with
        params := Params.read query
        text := .ofList (t ++ (blanks ++ '?' :: query)) } := by
  obtain ⟨p, unit, lit, rfl, hname, hunit, hspeed, rfl⟩ := h
  have hmark : '?' ∉ blanks := fun hmem => absurd (hblanks _ hmem) (by decide)
  have htext := Pieces.text_ask (Pieces.query_eq_none hfree) hmark query
  have hrest : trim (p.ask hmark query).rest = trim p.rest := trim_append_blanks p.rest hblanks
  refine ⟨p.ask hmark query, unit, lit, htext.symm, hname, ?_, hspeed, rfl⟩
  rwa [hrest]

theorem Denotes.ne_nil (h : Denotes t l) : t ≠ [] := by
  obtain ⟨p, unit, lit, rfl, -⟩ := h
  simp [Pieces.text]

theorem read_append_query {text query : String} (hread : read (some text) = .ok l)
    (hfree : '?' ∉ text.toList) (hlast : NoBlankLast query.toList) :
    read (some (text ++ ("?" ++ query))) =
      .ok { l with
        params := Params.read query.toList
        text := .ofList (trim (text ++ ("?" ++ query)).toList) } := by
  have hdenotes := read_eq_ok_iff.mp hread
  rw [Option.getD_some] at hdenotes
  have hchars : (text ++ ("?" ++ query)).toList = text.toList ++ '?' :: query.toList := by simp
  obtain ⟨blanks, hblanks, htrim⟩ :=
    exists_trim_append hdenotes.ne_nil (List.cons_ne_nil '?' query.toList)
      (hlast.cons (by decide))
  have hmark : '?' ∉ trim text.toList := fun hmem => hfree (mem_of_mem_trim hmem)
  rw [read_eq_ok_iff, Option.getD_some, hchars, htrim]
  exact hdenotes.append_query hmark hblanks query.toList

end WindSymbols.Locator
