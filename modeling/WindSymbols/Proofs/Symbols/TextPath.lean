import WindSymbols.Proofs.Locator.Written
import WindSymbols.Proofs.Symbols.Reachable
import WindSymbols.Proofs.Symbols.Table
import WindSymbols.Symbols.Resolution

/-! Speeds in knots by way of a text. A locator that names a registered set and holds the text of a
finite number resolves to the glyph that the set has for that number, and is refused if the set
refuses the number. -/

namespace WindSymbols

open Text

namespace Binary64

theorem finite_mul_one (s : Bool) (m : Magnitude) : finite s m * 1 = finite s m := by
  rw [one_eq, mul_eq, wholeMagnitude_units, Nat.one_mul, Bool.bne_false,
    ofUnits_eq_finite_iff]
  exact ⟨rfl, Rounding.toGrid_mul m.onGrid unitsPerOne_pos⟩

theorem fifteen_mul_one : (15 : Binary64) * 1 = 15 := by
  have hfifteen : 15 ≤ twoTo 53 := by decide
  rw [literal_eq hfifteen, finite_mul_one]

end Binary64

theorem knotsFactor_kts [UnitLibrary] : knotsFactor (some "kts") = .ok 1 := rfl

theorem speedInKnots_kts [UnitLibrary] (s : Bool) (m : Magnitude) :
    speedInKnots (.finite s m) "kts" = .ok (.finite s m) := by
  rw [speedInKnots, knotsFactor_kts]
  exact congrArg Except.ok (Binary64.finite_mul_one s m)

def knotsText (name : String) (x : Binary64) : String :=
  "windbarbs://" ++ name ++ "(" ++ x.text ++ ")[kts]"

theorem read_knotsText {name : String} (hkey : Registry.IsKey name) (hname : '(' ∉ name.toList)
    (hquery : '?' ∉ name.toList) (s : Bool) (m : Magnitude) :
    Locator.read (some (knotsText name (.finite s m))) =
      .ok ⟨name, .finite s m, "kts", [], knotsText name (.finite s m)⟩ := by
  obtain ⟨speed, hspeed, hvalue⟩ := Speed.exists_literal_textChars s m
  have htext : (knotsText name (.finite s m)).toList =
      Locator.plainText name.toList speed "kts".toList none := by
    unfold knotsText Binary64.text Locator.plainText
    simp only [String.toList_append, String.toList_ofList, hspeed, Locator.scheme_separator]
    simp [Locator.queryText]
  have hdenotes := Locator.denotes_plainText none speed hname hkey.trim_ne_nil
    (by decide : ']' ∉ "kts".toList) (by decide) ⟨hquery, by decide⟩
  have htrimmed := Locator.trimmed_plainText name.toList speed "kts".toList none noBlankLast_nil
  rw [hkey.lower_trim, hvalue, ← htext, String.ofList_toList, String.ofList_toList] at hdenotes
  exact Locator.read_of_denotes (htext ▸ htrimmed) hdenotes

namespace Registry

theorem southern_nil : Params.southern [] = false := by decide

theorem resolve_of_steps [UnitLibrary] {r : Registry} {text : Option String} {l : Locator} {set : SymbolSet}
    {knots : Binary64} (hread : Locator.read text = .ok l) (hget : r.get l.symbolSet = .ok set)
    (hknots : speedInKnots l.speed l.unit = .ok knots) :
    r.resolve text =
      if (set.classify knots).isValid then
        (set.lookup (set.classify knots)).map fun glyph =>
          ⟨l, knots, set.classify knots, if l.params.southern then glyph.reflected else glyph,
            l.params.southern⟩
      else .error (.symbol (.noSymbol (.real knots) set.profile.largest)) := by
  unfold resolve
  simp only [hread, hget, hknots, Except.mapError, bind, Except.bind]
  by_cases hvalid : (set.classify knots).isValid = true
  · simp only [hvalid, if_true, Bool.not_true, Bool.false_eq_true, if_false]
    cases set.lookup (set.classify knots) <;> rfl
  · simp only [hvalid, Bool.not_false, if_true]
    rfl

/-- A finite speed written into a locator is resolved as the speed itself is, or refused with it. -/
theorem resolve_knotsText [UnitLibrary] {r : Registry} (hr : Reachable r) {set : SymbolSet} (hset : set ∈ r)
    (hopen : '(' ∉ set.name.toList) (hquery : '?' ∉ set.name.toList) {x : Binary64}
    (hx : x.isFinite = true) :
    ((set.classify x).isValid = true →
      ∃ res, r.resolve (some (knotsText set.name x)) = .ok res ∧ res.knots = x ∧
        res.bucket = set.classify x ∧ set.glyphFor (.real x) = .ok res.glyph ∧
        res.southern = false) ∧
    ((set.classify x).isValid = false →
      r.resolve (some (knotsText set.name x)) =
          .error (.symbol (.noSymbol (.real x) set.profile.largest)) ∧
        set.glyphFor (.real x) = .error (.symbol (.noSymbol (.real x) set.profile.largest))) := by
  cases x with
  | nan => cases hx
  | infinite => cases hx
  | finite s m =>
    have hread := read_knotsText (hr.wellNamed.isKey set hset) hopen hquery s m
    have hresolve := resolve_of_steps hread (hr.wellNamed.get_of_mem hset) (speedInKnots_kts s m)
    generalize Binary64.finite s m = x at *
    rw [hresolve, southern_nil]
    rcases set.glyphFor_cases x with ⟨hinvalid, hglyph⟩ | ⟨-, hvalid, g, hlookup, hglyph⟩
    · rw [hinvalid]
      exact ⟨nofun, fun _ => ⟨rfl, hglyph⟩⟩
    · rw [if_pos hvalid, hlookup, hvalid]
      exact ⟨fun _ => ⟨_, rfl, rfl, rfl, hglyph, rfl⟩, nofun⟩

theorem classify_fifteen {set : SymbolSet} (h : set.profile = .standard) :
    set.classify 15 = .ofFamily 15 := by
  rw [SymbolSet.classify, h]
  decide +kernel

theorem resolve_fifteen_knots :
    ∃ set ∈ initial, ∃ res,
      initial.resolve (some "windbarbs://default(15.0)[kts]") = .ok res ∧ res.knots = 15 ∧
        res.bucket = .ofFamily 15 ∧ set.glyphFor (.real 15) = .ok res.glyph ∧
        res.southern = false := by
  obtain ⟨set, hinitial, hname, hprofile⟩ := exists_initial
  have hset : set ∈ initial := by rw [hinitial]; exact List.mem_singleton_self set
  have hopen : '(' ∉ set.name.toList := by rw [hname]; decide
  have hquery : '?' ∉ set.name.toList := by rw [hname]; decide
  have hfinite : (15 : Binary64).isFinite = true := by decide +kernel
  have hclassify := classify_fifteen hprofile
  have htext : knotsText set.name 15 = "windbarbs://default(15.0)[kts]" := by
    rw [hname]
    decide +kernel
  have hresolve := (resolve_knotsText .initial hset hopen hquery hfinite).1
  rw [hclassify, htext] at hresolve
  exact ⟨set, hset, hresolve rfl⟩

end Registry
end WindSymbols
