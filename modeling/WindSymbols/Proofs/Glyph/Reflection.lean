import WindSymbols.Proofs.Glyph.SamePaths

/-! Reflection across the shaft. It is a linear map and rounds, but where all coordinates are finite
it only changes the sign of each `x`, up to the sign of a zero (`PointOf.IsFinite.reflected_same`).
So the paths of a reflected glyph are closed where those of the glyph are, and reflecting twice
changes no value (`Glyph.acrossShaft_reflected`). -/

namespace WindSymbols

open Binary64

namespace PointOf

def IsFinite (p : Point) : Prop := p.x.isFinite = true ∧ p.y.isFinite = true

instance : DecidablePred IsFinite := fun _ => inferInstanceAs (Decidable (_ ∧ _))

def opposite (p : Point) : Point := ⟨-p.x, p.y⟩

theorem opposite_opposite (p : Point) : p.opposite.opposite = p := by
  rw [opposite, opposite, neg_neg]

theorem opposite_same_opposite (p q : Point) : p.opposite.same q.opposite = p.same q := by
  rw [Bool.eq_iff_iff, same_iff, same_iff, opposite, opposite, neg_same_neg]

theorem reflected_eq (p : Point) : p.reflected = ⟨-p.x + 0 * p.y, 0 * p.x + p.y⟩ := rfl

theorem IsFinite.reflected_same {p : Point} (h : p.IsFinite) :
    p.reflected.same p.opposite = true := by
  obtain ⟨s, a, hx⟩ := exists_eq_finite h.1
  obtain ⟨t, b, hy⟩ := exists_eq_finite h.2
  have hneg : -finite s a = finite (!s) a := rfl
  -- a finite coordinate times zero is a zero, and a zero added to the other one is not seen
  rw [reflected_eq, opposite, hx, hy, zero_mul_finite, zero_mul_finite, hneg, same_iff,
    Binary64.add_comm s]
  exact ⟨add_zero_same _ _ _ rfl, add_zero_same _ _ _ rfl⟩

theorem IsFinite.opposite {p : Point} (h : p.IsFinite) : p.opposite.IsFinite := by
  obtain ⟨s, m, hx⟩ := exists_eq_finite h.1
  refine ⟨?_, h.2⟩
  rw [PointOf.opposite, hx]
  rfl

theorem IsFinite.reflected {p : Point} (h : p.IsFinite) : p.reflected.IsFinite := by
  obtain ⟨hx, hy⟩ := same_iff.mp h.reflected_same
  exact ⟨isFinite_of_same hx h.opposite.1, isFinite_of_same hy h.opposite.2⟩

theorem IsFinite.reflected_reflected_same {p : Point} (h : p.IsFinite) :
    p.reflected.reflected.same p = true := by
  have hback := h.reflected.reflected_same
  have hopposite : p.reflected.opposite.same p.opposite.opposite = true := by
    rw [opposite_same_opposite]
    exact h.reflected_same
  rw [opposite_opposite] at hopposite
  exact same_trans hback hopposite

end PointOf

namespace Glyph

def IsFinite (g : Glyph) : Prop := ∀ path ∈ g, ∀ p ∈ path, PointOf.IsFinite p

instance : DecidablePred IsFinite := fun g =>
  inferInstanceAs (Decidable (∀ path ∈ g, ∀ p ∈ path, PointOf.IsFinite p))

def opposite (g : Glyph) : Glyph := List.map (List.map PointOf.opposite) g

/-- One glyph is the other as seen across the shaft. -/
structure AcrossShaft (g other : Glyph) : Prop where
  points : SamePaths other g.opposite
  closed : List.map PathOf.isClosed other = List.map PathOf.isClosed g
  back : SamePaths other.reflected g

theorem isClosed_map_opposite (path : Path) :
    PathOf.isClosed (path.map PointOf.opposite) = PathOf.isClosed path :=
  isClosed_map fun p _ q _ => PointOf.opposite_same_opposite p q

section Path

variable {path : Path} (h : ∀ p ∈ path, PointOf.IsFinite p)

include h

theorem samePath_reflected :
    SamePath (path.map PointOf.reflected) (path.map PointOf.opposite) := by
  rw [SamePath, List.forall₂_map_left_iff, List.forall₂_map_right_iff, List.forall₂_same]
  exact fun p hp => (h p hp).reflected_same

theorem isClosed_map_reflected :
    PathOf.isClosed (path.map PointOf.reflected) = PathOf.isClosed path := by
  rw [(samePath_reflected h).isClosed_eq, isClosed_map_opposite]

theorem samePath_reflected_reflected :
    SamePath ((path.map PointOf.reflected).map PointOf.reflected) path := by
  rw [SamePath, List.map_map, List.forall₂_map_left_iff, List.forall₂_same]
  exact fun p hp => (h p hp).reflected_reflected_same

end Path

theorem acrossShaft_reflected {g : Glyph} (h : g.IsFinite) : AcrossShaft g g.reflected where
  points := by
    rw [SamePaths, opposite, GlyphOf.reflected, List.forall₂_map_left_iff,
      List.forall₂_map_right_iff, List.forall₂_same]
    exact fun path hpath => samePath_reflected (h path hpath)
  closed := by
    rw [GlyphOf.reflected, List.map_map]
    exact List.map_congr_left fun path hpath => isClosed_map_reflected (h path hpath)
  back := by
    rw [SamePaths, GlyphOf.reflected, GlyphOf.reflected, List.map_map,
      List.forall₂_map_left_iff, List.forall₂_same]
    exact fun path hpath => samePath_reflected_reflected (h path hpath)

end Glyph
end WindSymbols
