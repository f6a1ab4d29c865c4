import WindSymbols.Proofs.Locator.Written
import WindSymbols.Proofs.Symbols.Reachable

/-! Which sets a locator can name. A name is trimmed and put into lower case when its set is
registered, again when a locator is read, and once more when the set is looked up, and nothing is
lost on the way. So every set can be named whose name has none of the characters at which a locator
ends its names, and no other (`exists_text_iff`). -/

namespace WindSymbols

open Text

theorem Locator.Normal.nameKey_eq {l : Locator} (h : l.Normal) :
    nameKey l.symbolSet = l.symbolSet := by
  rw [nameKey, h.name_trimmed.trim_eq, h.name_lower, String.ofList_toList]

def fifteenText (name : String) : String := "windbarbs://" ++ name ++ "(15)[kts]"

def fifteen : Speed.Literal :=
  .decimal .absent {
    whole := "15".toList
    fraction := none
    exponent := none
    whole_digits := List.all_eq_true.mp (by decide : "15".toList.all Char.isDigit = true)
    fraction_digits := List.forall_mem_nil _
    some_digit := by decide }

theorem toList_fifteenText (name : String) :
    (fifteenText name).toList = Locator.plainText name.toList fifteen "kts".toList none := by
  have hunit : "(15)[kts]".toList =
      '(' :: (fifteen.text ++ ')' :: '[' :: ("kts".toList ++ [']'])) := by
    decide
  unfold fifteenText Locator.plainText
  rw [String.toList_append, String.toList_append, Locator.scheme_separator, hunit]
  simp [Locator.queryText]

theorem read_fifteenText {name : String} (hopen : '(' ∉ name.toList) (hquery : '?' ∉ name.toList)
    (hblank : trim name.toList ≠ []) :
    ∃ l, Locator.read (some (fifteenText name)) = .ok l ∧ l.symbolSet = nameKey name := by
  have hdenotes := Locator.denotes_plainText none fifteen hopen hblank
    (by decide : ']' ∉ "kts".toList) (by decide) ⟨hquery, by decide⟩
  have htrimmed := Locator.trimmed_plainText name.toList fifteen "kts".toList none noBlankLast_nil
  rw [← toList_fifteenText] at hdenotes htrimmed
  exact ⟨_, Locator.read_of_denotes htrimmed hdenotes, rfl⟩

namespace Registry

theorem get_read_fifteenText {r : Registry} (hr : Reachable r) {set : SymbolSet} (hset : set ∈ r)
    {name : String} (hopen : '(' ∉ name.toList) (hquery : '?' ∉ name.toList)
    (hkey : nameKey name = set.name) :
    ∃ l, Locator.read (some (fifteenText name)) = .ok l ∧ r.get l.symbolSet = .ok set := by
  have hblank : trim name.toList ≠ [] := by
    intro hnil
    rw [nameKey, hnil, lower_eq_nil_iff.mpr rfl] at hkey
    exact (hr.wellNamed.isKey set hset).ne_empty hkey.symm
  obtain ⟨l, hread, hname⟩ := read_fifteenText hopen hquery hblank
  refine ⟨l, hread, ?_⟩
  rw [hname, hkey]
  exact hr.wellNamed.get_of_mem hset

theorem not_mem_name_of_read {r : Registry} {text : Option String} {l : Locator} {set : SymbolSet}
    (hread : Locator.read text = .ok l) (hget : r.get l.symbolSet = .ok set) :
    '(' ∉ set.name.toList ∧ '?' ∉ set.name.toList := by
  have hnormal := (Locator.read_eq_ok_iff.mp hread).normal
  rw [(get_eq_ok hget).2, hnormal.nameKey_eq]
  exact ⟨hnormal.name_end, hnormal.no_query.1⟩

/-- A registered set can be named by a locator if and only if its name has neither `(` nor `?`. Then
every spelling of the name without them names it. -/
theorem exists_text_iff {r : Registry} (hr : Reachable r) {set : SymbolSet} (hset : set ∈ r) :
    ((∃ text l, Locator.read text = .ok l ∧ r.get l.symbolSet = .ok set) ↔
      '(' ∉ set.name.toList ∧ '?' ∉ set.name.toList) ∧
      ∀ name : String, '(' ∉ name.toList → '?' ∉ name.toList → nameKey name = set.name →
        ∃ l, Locator.read (some ("windbarbs://" ++ name ++ "(15)[kts]")) = .ok l ∧
          r.get l.symbolSet = .ok set := by
  refine ⟨⟨?_, ?_⟩, fun name hopen hquery hkey => get_read_fifteenText hr hset hopen hquery hkey⟩
  · rintro ⟨text, l, hread, hget⟩
    exact not_mem_name_of_read hread hget
  · rintro ⟨hopen, hquery⟩
    have hkey := (hr.wellNamed.isKey set hset).key_eq
    obtain ⟨l, hread, hget⟩ := get_read_fifteenText hr hset hopen hquery hkey
    exact ⟨_, l, hread, hget⟩

theorem exists_text_of_standard :
    ∃ set, Reachable initial ∧ set ∈ initial ∧ set.name = "default" ∧
      (∃ text l, Locator.read text = .ok l ∧ initial.get l.symbolSet = .ok set) ∧
      ∃ l, Locator.read (some "windbarbs:// DeFault (15)[kts]") = .ok l ∧
        initial.get l.symbolSet = .ok set := by
  obtain ⟨set, hset, hname, -⟩ := exists_get_initial
  have hkey : nameKey " DeFault " = set.name := by
    rw [hname]
    decide
  have hfree : '(' ∉ set.name.toList ∧ '?' ∉ set.name.toList := by
    rw [hname]
    decide
  obtain ⟨hnamed, hspelled⟩ := exists_text_iff .initial hset
  exact ⟨set, .initial, hset, hname, hnamed.mpr hfree,
    hspelled " DeFault " (by decide) (by decide) hkey⟩

end Registry
end WindSymbols
