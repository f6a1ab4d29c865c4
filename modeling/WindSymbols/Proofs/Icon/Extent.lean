import WindSymbols.Proofs.Icon.Mirrored
import WindSymbols.Proofs.Number.Quarter
import WindSymbols.Proofs.Symbols.Table

/-! How far glyphs reach from their station. In exact arithmetic an extent is the largest reach of a
point (`extent_rat`), and that of a set the largest extent of a glyph (`commonExtent_rat`).
Comparing and changing signs rounds nothing, so double precision finds the same extents
(`commonExtent_exactly`). Every profile has a shaft of positive length, which its symbol for no data
shows, so no set with finite coordinates has an extent of zero (`SymbolSet.commonExtent_pos`). -/

namespace WindSymbols

open Binary64

section Largest

variable {α : Type} {f : α → ℚ} {l : List α}

theorem le_foldl_max {a : α} (h : a ∈ l) : f a ≤ (l.map f).foldl max 0 :=
  (List.max?_eq_some_iff.mp List.max?_cons').2 (f a)
    (List.mem_cons_of_mem 0 (List.mem_map_of_mem h))

theorem exists_eq_foldl_max (h : 0 < (l.map f).foldl max 0) :
    ∃ a ∈ l, f a = (l.map f).foldl max 0 := by
  have hmem : (l.map f).foldl max 0 ∈ 0 :: l.map f :=
    (List.max?_eq_some_iff.mp List.max?_cons').1
  rcases List.mem_cons.mp hmem with hzero | hmem
  · exact absurd hzero h.ne'
  · exact List.mem_map.mp hmem

end Largest

namespace Coordinate

theorem larger_rat (a b : ℚ) : larger a b = max a b := by
  rw [larger, less_rat]
  by_cases h : a < b
  · rw [if_pos (decide_eq_true h), max_eq_right h.le]
  · rw [if_neg (by simpa using h), max_eq_left (not_lt.mp h)]

end Coordinate

def PointOf.reach (p : PointOf ℚ) : ℚ := max |p.x| |p.y|

namespace GlyphOf

variable {g : GlyphOf ℚ}

theorem extent_rat (g : GlyphOf ℚ) : g.extent = (g.points.map PointOf.reach).foldl max 0 := by
  rw [extent, List.foldl_map]
  simp only [Coordinate.larger_rat, Coordinate.size_rat, max_assoc]
  rfl

theorem reach_le_extent {p : PointOf ℚ} (h : p ∈ g.points) : p.reach ≤ g.extent := by
  rw [extent_rat]
  exact le_foldl_max h

theorem exists_reach_eq_extent (h : 0 < g.extent) : ∃ p ∈ g.points, p.reach = g.extent := by
  rw [extent_rat] at h ⊢
  exact exists_eq_foldl_max h

end GlyphOf

theorem commonExtent_rat (gs : List (GlyphOf ℚ)) :
    commonExtent gs = (gs.map GlyphOf.extent).foldl max 0 := by
  rw [commonExtent, List.foldl_map]
  simp only [Coordinate.larger_rat]
  rfl

theorem extent_le_commonExtent {gs : List (GlyphOf ℚ)} {g : GlyphOf ℚ} (h : g ∈ gs) :
    g.extent ≤ commonExtent gs := by
  rw [commonExtent_rat]
  exact le_foldl_max h

theorem exists_extent_eq_commonExtent {gs : List (GlyphOf ℚ)} (h : 0 < commonExtent gs) :
    ∃ g ∈ gs, g.extent = commonExtent gs := by
  rw [commonExtent_rat] at h ⊢
  exact exists_eq_foldl_max h

namespace Binary64

open Coordinate

variable {x y : Binary64} {p q : ℚ}

theorem Exactly.less (hx : x.Exactly p) (hy : y.Exactly q) : less x y = less p q := by
  have hlt : Coordinate.less x y = x.lt y := rfl
  rw [hlt, lt_eq_decide hx.isFinite hy.isFinite, hx.toRat_eq, hy.toRat_eq, less_rat]

theorem Exactly.larger (hx : x.Exactly p) (hy : y.Exactly q) :
    (larger x y).Exactly (larger p q) := by
  rw [Coordinate.larger, Coordinate.larger, hx.less hy]
  split
  · exact hy
  · exact hx

theorem exactly_ofNat_zero : Exactly (Coordinate.ofNat 0) (Coordinate.ofNat 0) := exactly_zero

theorem Exactly.size (hx : x.Exactly p) : (size x).Exactly (size p) := by
  rw [Coordinate.size, Coordinate.size, hx.less exactly_ofNat_zero]
  split
  · exact hx.neg
  · exact hx

theorem exactly_toRat (h : x.isFinite = true) : x.Exactly x.toRat := ⟨h, rfl⟩

end Binary64

namespace Glyph

theorem points_exact (g : Glyph) : g.exact.points = g.points.map (PointOf.map toRat) := by
  simp only [exact, GlyphOf.map, GlyphOf.points, List.map_flatten]

theorem IsFinite.of_mem_points {g : Glyph} (h : g.IsFinite) {p : Point} (hp : p ∈ g.points) :
    p.IsFinite := by
  obtain ⟨path, hpath, hmem⟩ := List.mem_flatten.mp hp
  exact h path hpath p hmem

/-- No rounding is involved in finding an extent. -/
theorem extent_exactly {g : Glyph} (h : g.IsFinite) : g.extent.Exactly g.exact.extent := by
  rw [GlyphOf.extent, GlyphOf.extent, points_exact, List.foldl_map]
  refine List.foldl_rel exactly_ofNat_zero fun p hp reach reach' hreach => ?_
  obtain ⟨hx, hy⟩ := h.of_mem_points hp
  exact (hreach.larger (exactly_toRat hx).size).larger (exactly_toRat hy).size

end Glyph

theorem GlyphTable.glyphs_exact (table : GlyphTable) :
    table.exact.map (·.2) = (table.map (·.2)).map Glyph.exact := by
  simp only [GlyphTable.exact, List.map_map]
  rfl

theorem commonExtent_exactly {table : GlyphTable} (h : ∀ entry ∈ table, Glyph.IsFinite entry.2) :
    Exactly (commonExtent (table.map (·.2))) (commonExtent (table.exact.map (·.2))) := by
  rw [GlyphTable.glyphs_exact, commonExtent, commonExtent, List.foldl_map, List.foldl_map,
    List.foldl_map]
  refine List.foldl_rel exactly_ofNat_zero fun entry hentry reach reach' hreach => ?_
  exact hreach.larger (Glyph.extent_exactly (h entry hentry))

theorem Scalar.toRat_pos {a : Scalar} {x : Binary64} (ha : a.isPositive = true)
    (h : a.toBinary64 = .ok x) (hx : x.isFinite = true) : 0 < x.toRat := by
  cases a with
  | whole n =>
    rw [isPositive, whole_lt_whole, decide_eq_true_iff] at ha
    obtain ⟨m, rfl, hm⟩ := toBinary64_whole ha h
    have hone := unitsPerOne_le_of_whole ha hm
    have hpos := unitsPerOne_pos
    rw [toRat_finite, signed_false]
    exact div_pos (by exact_mod_cast (by omega : 0 < m.units)) unitsPerOne_cast_pos
  | real y =>
    cases h
    obtain ⟨s, m, rfl⟩ := exists_eq_finite hx
    have hpos : 0 * (unitsPerOne : ℤ) < signed s m.units := of_decide_eq_true ha
    rw [zero_mul] at hpos
    rw [toRat_finite]
    exact div_pos (by exact_mod_cast hpos) unitsPerOne_cast_pos

theorem Glyph.exists_tip_of_noData {p : Profile} {g : Glyph} (h : noData p = .ok g) :
    ∃ tip, p.dimensions.shaft.toBinary64 = .ok tip ∧ (⟨0, tip⟩ : Point) ∈ g.points := by
  obtain ⟨tip, htip, h⟩ := exists_of_bind_eq_ok h
  obtain ⟨width, -, h⟩ := exists_of_bind_eq_ok h
  obtain ⟨stem, hstem, h⟩ := exists_of_bind_eq_ok h
  obtain ⟨top, htop, hstem⟩ := exists_of_bind_eq_ok hstem
  cases h
  cases hstem
  exact ⟨top, htop, List.mem_flatten.mpr ⟨_, List.mem_cons_self, by simp⟩⟩

theorem Glyph.extent_noData_pos {p : Profile} {g : Glyph} (h : noData p = .ok g)
    (hg : g.IsFinite) : 0 < g.exact.extent := by
  obtain ⟨tip, htip, hmem⟩ := exists_tip_of_noData h
  have hpos := Scalar.toRat_pos (p.positive .shaft) htip (hg.of_mem_points hmem).2
  have hpoint : PointOf.map toRat ⟨0, tip⟩ ∈ g.exact.points := by
    rw [points_exact]
    exact List.mem_map_of_mem hmem
  calc
    0 < tip.toRat := hpos
    _ ≤ |tip.toRat| := le_abs_self _
    _ ≤ (PointOf.map toRat ⟨0, tip⟩).reach := le_max_right _ _
    _ ≤ g.exact.extent := GlyphOf.reach_le_extent hpoint

theorem SymbolSet.exists_noData (s : SymbolSet) :
    ∃ g, (Bucket.noData, g) ∈ s.table ∧ Glyph.noData s.profile = .ok g := by
  have hbucket : Bucket.noData ∈ GlyphTable.buckets s.profile := by
    simp [GlyphTable.mem_buckets]
  obtain ⟨g, hg⟩ := exists_get?_of_mem hbucket
  have hbuilt := ((s.get?_table _ _).mp hg).2
  rw [Glyph.ofBucket_noData] at hbuilt
  obtain ⟨before, after, htable, -⟩ := List.lookup_eq_some_iff.mp hg
  refine ⟨g, ?_, mapError_eq_ok_iff.mp hbuilt⟩
  rw [htable]
  exact List.mem_append_right _ List.mem_cons_self

/-- The common scale of a set is never found by a division by zero. -/
theorem SymbolSet.commonExtent_pos (s : SymbolSet)
    (h : ∀ entry ∈ s.table, Glyph.IsFinite entry.2) :
    0 < commonExtent (s.table.exact.map (·.2)) := by
  -- half of a calm circle may round to zero, so it is a shaft that gives the set its extent
  obtain ⟨g, hmem, hnoData⟩ := s.exists_noData
  have hglyph : g.exact ∈ s.table.exact.map (·.2) := by
    rw [GlyphTable.glyphs_exact]
    exact List.mem_map_of_mem (List.mem_map_of_mem hmem)
  exact (Glyph.extent_noData_pos hnoData (h _ hmem)).trans_le (extent_le_commonExtent hglyph)

end WindSymbols
