import WindSymbols.Proofs.Glyph.Reflection
import WindSymbols.Proofs.Number.Value
import Mathlib.Algebra.Order.Group.Abs

/-! Glyphs whose coordinates are taken for their exact values. Reflection only changes signs, so it
may be done before or after the values are taken (`Glyph.exact_reflected`), and a path is closed
exactly if it is closed among the values (`isClosed_exact`). -/

namespace WindSymbols

open Binary64

namespace Coordinate

theorem less_rat (a b : ℚ) : less a b = decide (a < b) := by
  rw [Bool.eq_iff_iff, decide_eq_true_iff]
  exact Iff.rfl

theorem same_rat (a b : ℚ) : same a b = decide (a = b) := rfl

theorem ofNat_rat (n : Nat) : (ofNat n : ℚ) = n := rfl

theorem size_rat (a : ℚ) : size a = |a| := by
  rw [size, less_rat, ofNat_rat, Nat.cast_zero]
  by_cases h : a < 0
  · rw [if_pos (decide_eq_true h), abs_of_neg h]
  · rw [if_neg (by simpa using h), abs_of_nonneg (not_lt.mp h)]

end Coordinate

namespace PointOf

theorem reflected_rat (p : PointOf ℚ) : p.reflected = ⟨-p.x, p.y⟩ := by
  have h : p.reflected = ⟨-p.x + 0 * p.y, 0 * p.x + p.y⟩ := rfl
  rw [h, zero_mul, zero_mul, add_zero, zero_add]

theorem same_rat_iff {p q : PointOf ℚ} : p.same q = true ↔ p = q := by
  obtain ⟨a, b⟩ := p
  obtain ⟨c, d⟩ := q
  simp [PointOf.same, Coordinate.same_rat]

end PointOf

namespace Glyph

/-- The values of the coordinates. -/
def exact (g : Glyph) : GlyphOf ℚ := g.map toRat

theorem same_map_toRat {p q : Point} (hp : p.IsFinite) (hq : q.IsFinite) :
    (p.map toRat).same (q.map toRat) = p.same q := by
  change (_ && _) = (p.x.same q.x && p.y.same q.y)
  rw [same_eq_decide hp.1 hq.1, same_eq_decide hp.2 hq.2]
  rfl

theorem isClosed_exact {path : Path} (h : ∀ p ∈ path, PointOf.IsFinite p) :
    PathOf.isClosed (path.map (PointOf.map toRat)) = PathOf.isClosed path :=
  isClosed_map fun p hp q hq => same_map_toRat (h p hp) (h q hq)

theorem isClosed_map_reflected_rat (path : PathOf ℚ) :
    PathOf.isClosed (path.map PointOf.reflected) = PathOf.isClosed path := by
  refine isClosed_map fun p _ q _ => ?_
  rw [Bool.eq_iff_iff, PointOf.same_rat_iff, PointOf.same_rat_iff, PointOf.reflected_rat,
    PointOf.reflected_rat]
  obtain ⟨a, b⟩ := p
  obtain ⟨c, d⟩ := q
  simp

theorem map_toRat_reflected {p : Point} (h : p.IsFinite) :
    p.reflected.map toRat = (p.map toRat).reflected := by
  obtain ⟨hx, hy⟩ := PointOf.same_iff.mp h.reflected_same
  rw [same_eq_decide h.reflected.1 h.opposite.1, decide_eq_true_iff] at hx
  rw [same_eq_decide h.reflected.2 h.opposite.2, decide_eq_true_iff] at hy
  rw [PointOf.reflected_rat, PointOf.map, hx, hy, PointOf.opposite, toRat_neg]
  rfl

theorem isFinite_reflected {g : Glyph} (h : g.IsFinite) : IsFinite g.reflected := by
  intro path hpath p hp
  obtain ⟨path, hmem, rfl⟩ := List.mem_map.mp hpath
  obtain ⟨q, hq, rfl⟩ := List.mem_map.mp hp
  exact (h path hmem q hq).reflected

theorem exact_reflected {g : Glyph} (h : g.IsFinite) :
    exact g.reflected = g.exact.reflected := by
  simp only [exact, GlyphOf.map, GlyphOf.reflected, List.map_map]
  refine List.map_congr_left fun path hpath => ?_
  simp only [Function.comp_apply, List.map_map]
  exact List.map_congr_left fun p hp => map_toRat_reflected (h path hpath p hp)

end Glyph
end WindSymbols
