import WindSymbols.Proofs.Glyph.Reflection
import WindSymbols.Proofs.Locator.Query
import WindSymbols.Proofs.Symbols.Shape

/-! The southern side of a symbol. A text that asks for it resolves to what it resolves to without
the request, the set, the unit, the knots and the bucket included, and only the glyph is taken
across its shaft (`resolve_southern`). The set keeps the northern glyph. -/

namespace WindSymbols

open Text

/-- What the symbols of both sides have in common, and what tells them apart. -/
structure Resolved.Sides (north south : Resolved) : Prop where
  northern : north.southern = false
  southern : south.southern = true
  symbolSet_eq : south.locator.symbolSet = north.locator.symbolSet
  unit_eq : south.locator.unit = north.locator.unit
  knots_eq : south.knots = north.knots
  bucket_eq : south.bucket = north.bucket
  glyph : Glyph.AcrossShaft north.glyph south.glyph

namespace Registry

theorem southern_read : Params.southern (Params.read "hemisphere=s".toList) = true := by
  decide

/-- Asking for the southern side changes the side of a symbol and nothing else. -/
theorem resolve_southern [UnitLibrary] {r : Registry} {text : String} {res : Resolved}
    (hfree : '?' ∉ text.toList) (hres : r.resolve (some text) = .ok res)
    (hfinite : Glyph.IsFinite res.glyph) :
    ∃ south set, r.resolve (some (text ++ "?hemisphere=s")) = .ok south ∧ res.Sides south ∧
      r.get res.locator.symbolSet = .ok set ∧ set.lookup res.bucket = .ok res.glyph := by
  obtain ⟨l, set, factor, g, hread, hget, hunit, hvalid, hlookup, hnorth⟩ :=
    resolve_eq_ok_iff.mp hres
  rw [Locator.params_eq_nil_of_read hread hfree, southern_nil, if_neg Bool.false_ne_true]
    at hnorth
  subst hnorth
  have hlast : NoBlankLast "hemisphere=s".toList := by
    intro c hc
    cases hc
    decide
  have hasked := Locator.read_append_query hread hfree hlast
  -- the parameters are all that was read otherwise, and no step but the last looks at them
  have hsouth := resolve_eq_ok_iff.mpr
    ⟨_, set, factor, g, hasked, hget, hunit, hvalid, hlookup, rfl⟩
  rw [southern_read, if_pos rfl] at hsouth
  have hglyph := Glyph.acrossShaft_reflected hfinite
  exact ⟨_, set, hsouth, ⟨rfl, rfl, rfl, rfl, rfl, rfl, hglyph⟩, hget, hlookup⟩

/-- The blank after the unit ends up in front of the query. -/
theorem resolve_southern_of_blank :
    ∃ north, '?' ∉ "windbarbs://default(15)[kts] ".toList ∧
      initial.resolve (some "windbarbs://default(15)[kts] ") = .ok north ∧
      Glyph.IsFinite north.glyph ∧
      ∃ south set,
        initial.resolve (some "windbarbs://default(15)[kts] ?hemisphere=s") = .ok south ∧
          north.Sides south ∧ initial.get north.locator.symbolSet = .ok set ∧
          set.lookup north.bucket = .ok north.glyph := by
  have hread : Locator.read (some "windbarbs://default(15)[kts] ") =
      .ok ⟨"default", 15, "kts", [], "windbarbs://default(15)[kts]"⟩ := by decide +kernel
  obtain ⟨set, -, -, hprofile, hget⟩ := exists_get_initial
  have hclassify : set.classify (15 * 1) = .ofFamily 15 := by
    rw [Binary64.fifteen_mul_one]
    exact classify_fifteen hprofile
  have hdrawn : ∀ g, Glyph.ofBucket (.ofFamily 15) .standard = .ok g → Glyph.IsFinite g := by
    have hall : (Glyph.ofBucket (.ofFamily 15) .standard).toOption.all
        (fun g => decide (Glyph.IsFinite g)) = true := by decide +kernel
    intro g hg
    simpa [hg, Except.toOption] using hall
  rcases resolve_of_factor hread hget knotsFactor_kts with ⟨hinvalid, -⟩ | ⟨-, g, hlookup, hres⟩
  · rw [hclassify] at hinvalid
    cases hinvalid
  · rw [southern_nil, if_neg Bool.false_ne_true] at hres
    have hfinite : Glyph.IsFinite g := by
      have hbuilt := ((set.get?_table _ g).mp ((set.lookup_eq_ok_iff _ g).mp hlookup)).2
      rw [hclassify, hprofile] at hbuilt
      exact hdrawn g hbuilt
    have hfree : '?' ∉ "windbarbs://default(15)[kts] ".toList := by decide
    have hsouth := resolve_southern hfree hres hfinite
    have htext : "windbarbs://default(15)[kts] " ++ "?hemisphere=s" =
        "windbarbs://default(15)[kts] ?hemisphere=s" := by decide
    rw [htext] at hsouth
    exact ⟨_, hfree, hres, hfinite, hsouth⟩

end Registry
end WindSymbols
