import Mathlib.Logic.Relation
import WindSymbols.Proofs.Locator.Pairs
import WindSymbols.Proofs.Symbols.Shape
import WindSymbols.Proofs.Symbols.SpecialSpeed

/-! The side of a symbol as its query asks for it. A symbol is southern if and only if the last pair
of one of the two keys has the value `s` (`southern_read_iff`), so pairs may be rearranged as long
as those of these keys stay in their order (`southern_of_eqvGen`). -/

namespace WindSymbols

open Text

namespace Params

/-- The last pair with a key has the value `s`, in either case and with blanks around it. -/
def AsksSouth (key : String) (query : List Char) : Prop :=
  ∃ value, lastValue? key query = some value ∧ lower (trim value) = "s".toList

def keyOf? (piece : List Char) : Option String := (pair? piece).map (·.1)

/-- One change to the pieces of a query that says nothing new about the side: two neighbours with
different keys change places, or a piece comes in that is no pair or has another key. -/
inductive Rearranged : List (List Char) → List (List Char) → Prop
  | swap (before after : List (List Char)) {a b : List Char} (h : keyOf? a ≠ keyOf? b) :
      Rearranged (before ++ a :: b :: after) (before ++ b :: a :: after)
  | add (before after : List (List Char)) {a : List Char}
      (h : ∀ key, keyOf? a = some key → key ≠ "hemisphere" ∧ key ≠ "emisphere") :
      Rearranged (before ++ after) (before ++ a :: after)

theorem ofList_eq_self {params : Params} (h : params.keys.Nodup) : ofList params = params := by
  induction params using List.reverseRecOn with
  | nil => rfl
  | append_singleton params p ih =>
    rw [keys, List.map_append, List.nodup_append] at h
    have hnew : p.1 ∉ keys params := fun hmem => h.2.2 p.1 hmem p.1 List.mem_cons_self rfl
    rw [ofList, List.foldl_append, ← ofList, ih h.1]
    exact if_neg hnew

theorem southern_of_canonical {params : Params} (h : params.Canonical) :
    params.southern = true ↔
      ∃ key ∈ hemisphereKeys, ∃ value, params.get? key = some value ∧ nameKey value = "s" := by
  have hlower : (params.map fun p => (lowerText p.1, p.2)) = params := by
    conv => rhs; rw [← List.map_id params]
    refine List.map_congr_left fun p hp => ?_
    rw [lowerText, (h.pairs p hp).key_lower, String.ofList_toList, id]
  rw [southern, hlower, ofList_eq_self h.nodup, List.any_eq_true]
  refine exists_congr fun key => and_congr_right fun _ => ?_
  cases params.get? key <;> simp

theorem nameKey_stored (value : List Char) : nameKey (stored value) = .ofList (lower (trim value)) := by
  rw [nameKey, stored, String.toList_ofList, trim_trim]

theorem asksSouth_iff {key : String} {query : List Char} :
    AsksSouth key query ↔ ∃ value, (read query).get? key = some value ∧ nameKey value = "s" := by
  rw [AsksSouth, get?_read]
  constructor
  · rintro ⟨value, hlast, hs⟩
    refine ⟨stored value, by rw [hlast]; rfl, ?_⟩
    rw [nameKey_stored, hs, String.ofList_toList]
  · rintro ⟨_, hlast, hs⟩
    obtain ⟨value, hvalue, rfl⟩ := Option.map_eq_some_iff.mp hlast
    refine ⟨value, hvalue, ?_⟩
    rw [nameKey_stored] at hs
    rw [← hs, String.toList_ofList]

theorem southern_read_iff (query : List Char) :
    (read query).southern = true ↔
      AsksSouth "hemisphere" query ∨ AsksSouth "emisphere" query := by
  rw [southern_of_canonical (canonical_read query), asksSouth_iff, asksSouth_iff, hemisphereKeys]
  simp

theorem filter_pair?_eq_none {piece : List Char} {key : String} (h : keyOf? piece ≠ some key) :
    (pair? piece).filter (·.1 = key) = none := by
  rw [Option.filter_eq_none_iff]
  intro p hp
  simpa [keyOf?, hp] using h

theorem filter_of_rearranged {a b : List (List Char)} (h : Rearranged a b) {key : String}
    (hkey : key = "hemisphere" ∨ key = "emisphere") :
    (a.filterMap pair?).filter (·.1 = key) = (b.filterMap pair?).filter (·.1 = key) := by
  rw [List.filter_filterMap, List.filter_filterMap]
  cases h with
  | @swap before after a b h =>
    rw [List.filterMap_append, List.filterMap_append]
    congr 1
    by_cases ha : keyOf? a = some key
    · have hb := filter_pair?_eq_none (ha ▸ h.symm)
      simp only [List.filterMap_cons, hb]
    · have ha := filter_pair?_eq_none ha
      simp only [List.filterMap_cons, ha]
  | @add before after a h =>
    have ha : keyOf? a ≠ some key := fun heq => by
      obtain ⟨hnorth, hmisspelled⟩ := h key heq
      exact hkey.elim hnorth hmisspelled
    have ha := filter_pair?_eq_none ha
    rw [List.filterMap_append, List.filterMap_append]
    simp only [List.filterMap_cons, ha]

theorem filter_of_eqvGen {a b : List (List Char)} (h : Relation.EqvGen Rearranged a b)
    {key : String} (hkey : key = "hemisphere" ∨ key = "emisphere") :
    (a.filterMap pair?).filter (·.1 = key) = (b.filterMap pair?).filter (·.1 = key) := by
  induction h with
  | rel a b h => exact filter_of_rearranged h hkey
  | refl a => rfl
  | symm a b _ ih => exact ih.symm
  | trans a b c _ _ hab hbc => exact hab.trans hbc

theorem asksSouth_of_eqvGen {query other : List Char}
    (h : Relation.EqvGen Rearranged (pieces '&' query) (pieces '&' other)) {key : String}
    (hkey : key = "hemisphere" ∨ key = "emisphere") :
    AsksSouth key query ↔ AsksSouth key other := by
  rw [AsksSouth, AsksSouth, lastValue?, lastValue?, pairs, pairs, filter_of_eqvGen h hkey]

theorem southern_of_eqvGen {query other : List Char}
    (h : Relation.EqvGen Rearranged (pieces '&' query) (pieces '&' other)) :
    (read query).southern = (read other).southern := by
  rw [Bool.eq_iff_iff, southern_read_iff, southern_read_iff, asksSouth_of_eqvGen h (.inl rfl),
    asksSouth_of_eqvGen h (.inr rfl)]

end Params

theorem Locator.southern_iff_param {l : Locator} (h : l.params.Canonical) :
    l.params.southern = true ↔
      ∃ key ∈ ["hemisphere", "emisphere"], ∃ value,
        l.param key none = some value ∧ nameKey value = "s" := by
  have hlower : ∀ key ∈ ["hemisphere", "emisphere"], lowerText key = key := by decide
  rw [Params.southern_of_canonical h, Params.hemisphereKeys]
  refine exists_congr fun key => and_congr_right fun hkey => ?_
  rw [LocatorOf.param, hlower key hkey, Option.or_none]

namespace Registry

open Locator

/-- The side of a symbol follows from the pairs of its query, and from the parameters of its
locator alike. Rearranging the query changes neither the side nor anything else of the symbol but
its locator. -/
theorem southern_follows_pairs [UnitLibrary] {r : Registry} {text : String} {front : List Char}
    {query : Option (List Char)} {res : Resolved}
    (htext : trim text.toList = front ++ queryText query) (hfree : '?' ∉ front)
    (hres : r.resolve (some text) = .ok res) :
    (res.southern = true ↔
        Params.AsksSouth "hemisphere" (query.getD []) ∨
          Params.AsksSouth "emisphere" (query.getD [])) ∧
      (res.southern = true ↔
        ∃ key ∈ ["hemisphere", "emisphere"], ∃ value,
          res.locator.param key none = some value ∧ nameKey value = "s") ∧
      ∀ (other : String) (otherQuery : Option (List Char)),
        trim other.toList = front ++ queryText otherQuery →
          Relation.EqvGen Params.Rearranged (pieces '&' (query.getD []))
            (pieces '&' (otherQuery.getD [])) →
          ∃ l, Locator.read (some other) = .ok l ∧
            r.resolve (some other) = .ok { res with locator := l } := by
  obtain ⟨l, set, factor, g, hread, hget, hunit, hvalid, hlookup, rfl⟩ :=
    resolve_eq_ok_iff.mp hres
  have hdenotes := read_eq_ok_iff.mp hread
  rw [Option.getD_some, htext] at hdenotes
  have hparams := hdenotes.params_eq hfree
  refine ⟨?_, ?_, ?_⟩
  · rw [← Params.southern_read_iff, ← hparams]
  · exact southern_iff_param hdenotes.normal.params
  · intro other otherQuery hother hsame
    have hreplaced := hdenotes.replace_query hfree otherQuery
    have hside := Params.southern_of_eqvGen hsame
    have hreadOther := read_of_trim_eq hother hreplaced
    rw [← hparams] at hside
    rw [hside]
    exact ⟨_, hreadOther, resolve_eq_ok_iff.mpr
      ⟨_, set, factor, g, hreadOther, hget, hunit, hvalid, hlookup, rfl⟩⟩

/-- Of the two pairs that ask for a side the later one counts, and a pair with another key may be
moved out of their way. -/
theorem southern_follows_pairs_of_two :
    ∃ res l, initial.resolve (some "windbarbs://default(NaN)[kts]?hemisphere=n&a=b&Hemisphere= S") =
        .ok res ∧ res.southern = true ∧
      initial.resolve (some "windbarbs://default(NaN)[kts]?a=b&hemisphere=n&Hemisphere= S") =
        .ok { res with locator := l } := by
  have hread : Locator.read
      (some "windbarbs://default(NaN)[kts]?hemisphere=n&a=b&Hemisphere= S") =
        .ok ⟨"default", .nan, "kts", [("hemisphere", "S"), ("a", "b")],
          "windbarbs://default(NaN)[kts]?hemisphere=n&a=b&Hemisphere= S"⟩ := by decide
  obtain ⟨set, -, -, -, hget⟩ := exists_get_initial
  obtain ⟨res, hres, -⟩ := (exists_resolve_noData_iff hread hget knotsFactor_kts).mpr rfl
  have htext : trim "windbarbs://default(NaN)[kts]?hemisphere=n&a=b&Hemisphere= S".toList =
      "windbarbs://default(NaN)[kts]".toList ++
        queryText (some "hemisphere=n&a=b&Hemisphere= S".toList) := by decide
  have hother : trim "windbarbs://default(NaN)[kts]?a=b&hemisphere=n&Hemisphere= S".toList =
      "windbarbs://default(NaN)[kts]".toList ++
        queryText (some "a=b&hemisphere=n&Hemisphere= S".toList) := by decide
  obtain ⟨hside, -, hchanged⟩ := southern_follows_pairs htext (by decide) hres
  have hsouth : Params.AsksSouth "hemisphere" "hemisphere=n&a=b&Hemisphere= S".toList :=
    ⟨" S".toList, by decide, by decide⟩
  have hkeys : Params.keyOf? "hemisphere=n".toList ≠ Params.keyOf? "a=b".toList := by
    decide
  have hswap := Params.Rearranged.swap [] ["Hemisphere= S".toList] hkeys
  obtain ⟨l, -, hl⟩ := hchanged _ _ hother (.rel _ _ hswap)
  exact ⟨res, l, hres, hside.mpr (.inl hsouth), hl⟩

end Registry
end WindSymbols
