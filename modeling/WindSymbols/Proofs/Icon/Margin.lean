import WindSymbols.Proofs.Icon.Extent
import Mathlib.Tactic.Linarith

/-! Icons and their margins, in exact arithmetic. A point is inside the margin if it is no farther
from the centre of its icon than the room between centre and margin (`isInside_iff`), and drawing
multiplies distances from the station (`fromCentre_inIcon`). So a scale that brings an extent to the
margin keeps every glyph inside that extends no farther (`keepsMargin_drawnAt`), and has a glyph
that extends as far touch it (`reachesMargin_drawnAt`). This holds of a single glyph that is fitted
into its icon and of all icons of a set (`Registry.icons_keep_margin`). -/

namespace WindSymbols

open Binary64

section Points

variable {α : Type}

def DrawingOf.points : DrawingOf α → PathOf α
  | .polygon points _ => points
  | .line points _ _ => points

def IconOf.points (icon : IconOf α) : List (PointOf α) := icon.drawings.flatMap DrawingOf.points

variable [Coordinate α]

theorem PathOf.points_drawn (size : Nat) (scale : α) (pen : Pen) (path : PathOf α) :
    (path.drawn size scale pen).points = path.map (·.inIcon size scale) := by
  unfold PathOf.drawn
  dsimp only
  split <;> rfl

theorem GlyphOf.points_drawnAt (size : Nat) (scale : α) (pen : Pen) (g : GlyphOf α) :
    (g.drawnAt size scale pen).points = g.points.map (·.inIcon size scale) := by
  have hpaths : DrawingOf.points ∘ PathOf.drawn size scale pen =
      fun path : PathOf α => path.map (·.inIcon size scale) :=
    funext (PathOf.points_drawn size scale pen)
  rw [IconOf.points, GlyphOf.drawnAt, GlyphOf.points, List.flatMap_def, List.map_map, hpaths,
    List.map_flatten]

end Points

structure PointOf.IsInside (size : Nat) (p : PointOf ℚ) : Prop where
  left : iconMargin ≤ p.x
  right : p.x ≤ size - iconMargin
  top : iconMargin ≤ p.y
  bottom : p.y ≤ size - iconMargin

def PointOf.Touches (size : Nat) (p : PointOf ℚ) : Prop :=
  p.x = iconMargin ∨ p.x = size - iconMargin ∨ p.y = iconMargin ∨ p.y = size - iconMargin

def IconOf.KeepsMargin (icon : IconOf ℚ) : Prop := ∀ p ∈ icon.points, p.IsInside icon.size

def IconOf.ReachesMargin (icon : IconOf ℚ) : Prop := ∃ p ∈ icon.points, p.Touches icon.size

def iconRoom (size : Nat) : ℚ := size / 2 - iconMargin

theorem iconRoom_pos {size : Nat} (h : 9 ≤ size) : 0 < iconRoom size := by
  have hsize : (9 : ℚ) ≤ size := by exact_mod_cast h
  have hmargin : (iconMargin : ℚ) = 4 := rfl
  rw [iconRoom, hmargin]
  linarith

theorem iconFit_rat (size : Nat) (extent : ℚ) : iconFit size extent = iconRoom size / extent := rfl

namespace PointOf

variable {size : Nat} {p : PointOf ℚ}

/-- The distance of a drawn point from the centre, along the axis on which it is farther away. -/
def fromCentre (size : Nat) (p : PointOf ℚ) : ℚ := max |p.x - size / 2| |p.y - size / 2|

theorem isInside_iff : p.IsInside size ↔ p.fromCentre size ≤ iconRoom size := by
  rw [fromCentre, max_le_iff, abs_le, abs_le, iconRoom]
  constructor
  · rintro ⟨hleft, hright, htop, hbottom⟩
    exact ⟨⟨by linarith, by linarith⟩, by linarith, by linarith⟩
  · rintro ⟨⟨hleft, hright⟩, htop, hbottom⟩
    exact ⟨by linarith, by linarith, by linarith, by linarith⟩

theorem touches_of_fromCentre_eq (h : p.fromCentre size = iconRoom size) : p.Touches size := by
  unfold iconRoom at h
  unfold Touches
  rcases max_choice |p.x - size / 2| |p.y - size / 2| with hx | hy
  · rcases eq_or_eq_neg_of_abs_eq (hx.symm.trans h) with hright | hleft
    · exact .inr (.inl (by linarith))
    · exact .inl (by linarith)
  · rcases eq_or_eq_neg_of_abs_eq (hy.symm.trans h) with hbottom | htop
    · exact .inr (.inr (.inr (by linarith)))
    · exact .inr (.inr (.inl (by linarith)))

theorem Touches.iconRoom_le (h : p.Touches size) : iconRoom size ≤ p.fromCentre size := by
  unfold iconRoom
  rcases h with hleft | hright | htop | hbottom
  · exact le_max_of_le_left (le_abs.mpr (.inr (by linarith)))
  · exact le_max_of_le_left (le_abs.mpr (.inl (by linarith)))
  · exact le_max_of_le_right (le_abs.mpr (.inr (by linarith)))
  · exact le_max_of_le_right (le_abs.mpr (.inl (by linarith)))

/-- Drawing multiplies distances by its scale, whatever the directions of the axes. -/
theorem fromCentre_inIcon (size : Nat) (scale : ℚ) (p : PointOf ℚ) :
    (p.inIcon size scale).fromCentre size = p.reach * |scale| := by
  have hx : size / 2 + p.x * scale - size / 2 = p.x * scale := by ring
  have hy : size / 2 - p.y * scale - size / 2 = -(p.y * scale) := by ring
  rw [fromCentre, inIcon_rat, hx, hy, abs_neg, abs_mul, abs_mul, reach,
    max_mul_of_nonneg _ _ (abs_nonneg scale)]

theorem reach_eq_zero_iff : p.reach = 0 ↔ p = ⟨0, 0⟩ := by
  constructor
  · intro h
    have hx : p.x = 0 := abs_nonpos_iff.mp ((le_max_left _ _).trans_eq h)
    have hy : p.y = 0 := abs_nonpos_iff.mp ((le_max_right _ _).trans_eq h)
    cases p
    rw [PointOf.mk.injEq]
    exact ⟨hx, hy⟩
  · rintro rfl
    simp [reach]

end PointOf

section Drawn

variable {size : Nat} (hsize : 9 ≤ size) {extent : ℚ} (hextent : 0 < extent) (pen : Pen)
  {g : GlyphOf ℚ}

include hsize

theorem fromCentre_fitted (hextent : 0 < extent) (p : PointOf ℚ) :
    (p.inIcon size (iconFit size extent)).fromCentre size = p.reach / extent * iconRoom size := by
  have hscale : 0 ≤ iconRoom size / extent := div_nonneg (iconRoom_pos hsize).le hextent.le
  rw [PointOf.fromCentre_inIcon, iconFit_rat, abs_of_nonneg hscale]
  ring

include hextent

theorem keepsMargin_drawnAt (h : g.extent ≤ extent) :
    (g.drawnAt size (iconFit size extent) pen).KeepsMargin := by
  intro p hp
  rw [GlyphOf.points_drawnAt] at hp
  obtain ⟨p, hmem, rfl⟩ := List.mem_map.mp hp
  have hreach : p.reach / extent ≤ 1 :=
    (div_le_one hextent).mpr ((GlyphOf.reach_le_extent hmem).trans h)
  refine PointOf.isInside_iff.mpr ?_
  calc
    (p.inIcon size (iconFit size extent)).fromCentre size
      = p.reach / extent * iconRoom size := fromCentre_fitted hsize hextent p
    _ ≤ 1 * iconRoom size := mul_le_mul_of_nonneg_right hreach (iconRoom_pos hsize).le
    _ = iconRoom size := one_mul _

theorem reachesMargin_drawnAt (h : g.extent = extent) :
    (g.drawnAt size (iconFit size extent) pen).ReachesMargin := by
  rw [← h] at hextent
  obtain ⟨p, hmem, hreach⟩ := GlyphOf.exists_reach_eq_extent hextent
  refine ⟨p.inIcon size (iconFit size extent), ?_, PointOf.touches_of_fromCentre_eq ?_⟩
  · rw [GlyphOf.points_drawnAt]
    exact List.mem_map_of_mem hmem
  · rw [← h]
    change (p.inIcon size (iconFit size g.extent)).fromCentre size = iconRoom size
    rw [fromCentre_fitted hsize hextent, hreach, div_self hextent.ne', one_mul]

end Drawn

section Fitted

variable {size : Nat} (hsize : 9 ≤ size) (pen : Pen) (g : GlyphOf ℚ)

theorem GlyphOf.extent_pos_iff {g : GlyphOf ℚ} : 0 < g.extent ↔ ∃ p ∈ g.points, p ≠ ⟨0, 0⟩ := by
  constructor
  · intro h
    obtain ⟨p, hmem, hreach⟩ := exists_reach_eq_extent h
    refine ⟨p, hmem, fun horigin => h.ne' ?_⟩
    rw [← hreach, PointOf.reach_eq_zero_iff.mpr horigin]
  · rintro ⟨p, hmem, hne⟩
    have hnonneg : 0 ≤ p.reach := (abs_nonneg p.x).trans (le_max_left _ _)
    have hreach : p.reach ≠ 0 := mt PointOf.reach_eq_zero_iff.mp hne
    exact (lt_of_le_of_ne hnonneg hreach.symm).trans_le (reach_le_extent hmem)

theorem GlyphOf.fit_of_pos {g : GlyphOf ℚ} (h : 0 < g.extent) :
    g.fit size = iconFit size g.extent := by
  have hless : Coordinate.less (Coordinate.ofNat 0) g.extent = true := by
    rw [Coordinate.less_rat]
    exact decide_eq_true h
  rw [fit, any_isUnplaced_rat, if_neg Bool.false_ne_true, if_pos hless]

theorem GlyphOf.fromCentre_of_not_pos {g : GlyphOf ℚ} (h : ¬ 0 < g.extent) (scale : ℚ)
    {q : PointOf ℚ} (hq : q ∈ (g.drawnAt size scale pen).points) : q.fromCentre size = 0 := by
  rw [points_drawnAt] at hq
  obtain ⟨p, hmem, rfl⟩ := List.mem_map.mp hq
  have horigin : p = ⟨0, 0⟩ := by
    by_contra hne
    exact h (extent_pos_iff.mpr ⟨p, hmem, hne⟩)
  rw [PointOf.fromCentre_inIcon, PointOf.reach_eq_zero_iff.mpr horigin, zero_mul]

theorem length_points_icon : (g.icon size none pen).points.length = g.points.length := by
  rw [GlyphOf.icon, GlyphOf.points_drawnAt, List.length_map]

include hsize

theorem keepsMargin_icon : (g.icon size none pen).KeepsMargin := by
  by_cases h : 0 < g.extent
  · rw [GlyphOf.icon, Option.getD_none, GlyphOf.fit_of_pos h]
    exact keepsMargin_drawnAt hsize h pen le_rfl
  · -- whatever the scale is, all points are in the centre
    intro q hq
    refine PointOf.isInside_iff.mpr ?_
    rw [GlyphOf.icon] at hq
    change q.fromCentre size ≤ iconRoom size
    rw [GlyphOf.fromCentre_of_not_pos pen h _ hq]
    exact (iconRoom_pos hsize).le

/-- A glyph that is more than its station touches the margin. -/
theorem reachesMargin_icon_iff :
    (g.icon size none pen).ReachesMargin ↔ ∃ p ∈ g.points, p ≠ ⟨0, 0⟩ := by
  rw [← GlyphOf.extent_pos_iff]
  constructor
  · rintro ⟨q, hq, htouches⟩
    by_contra h
    rw [GlyphOf.icon] at hq
    have hroom : iconRoom size ≤ q.fromCentre size := htouches.iconRoom_le
    rw [GlyphOf.fromCentre_of_not_pos pen h _ hq] at hroom
    exact absurd hroom (not_le.mpr (iconRoom_pos hsize))
  · intro h
    rw [GlyphOf.icon, Option.getD_none, GlyphOf.fit_of_pos h]
    exact reachesMargin_drawnAt hsize h pen rfl

end Fitted

section Files

variable {size : Nat} (hsize : 9 ≤ size) {table : List (Bucket × GlyphOf ℚ)}
  (hextent : 0 < commonExtent (table.map (·.2))) (southern : Bool)

theorem extent_if_reflected (g : GlyphOf ℚ) :
    GlyphOf.extent (if southern then g.reflected else g) = g.extent := by
  cases southern with
  | false => rfl
  | true => exact extent_reflected g

include hsize hextent

theorem keepsMargin_iconFiles {file : IconFileOf ℚ} (h : file ∈ iconFiles size southern table) :
    file.icon.KeepsMargin := by
  obtain ⟨entry, hentry, rfl⟩ := List.mem_map.mp h
  refine keepsMargin_drawnAt hsize hextent {} ?_
  rw [extent_if_reflected]
  exact extent_le_commonExtent (List.mem_map_of_mem hentry)

theorem exists_reachesMargin :
    ∃ file ∈ iconFiles size southern table, file.icon.ReachesMargin := by
  obtain ⟨g, hg, hlargest⟩ := exists_extent_eq_commonExtent hextent
  obtain ⟨entry, hentry, rfl⟩ := List.mem_map.mp hg
  refine ⟨_, List.mem_map_of_mem hentry, reachesMargin_drawnAt hsize hextent {} ?_⟩
  rw [extent_if_reflected, hlargest]

end Files

/-- Icons stay inside their margin and use all of it. Both a single icon and the files of a set have
the drawings that exact arithmetic makes. There all points of a single glyph are drawn inside, and
one of them touches the margin unless the glyph is nothing but its station. The icons of a set share
a scale that is never found by a division by zero, in exact arithmetic or in double precision; all
their points are inside, in both hemispheres, and one icon at least touches the margin. -/
theorem Registry.icons_keep_margin {size : Nat} (hsize : 9 ≤ size) :
    (∀ (g : Glyph) (pen : Pen), g.IsFinite →
      g.render size none pen = .ok (GlyphOf.icon size none pen g) ∧
        (GlyphOf.icon size none pen g).Corresponds PointOf.Any (g.exact.icon size none pen) ∧
        (g.exact.icon size none pen).points.length = g.exact.points.length ∧
        (g.exact.icon size none pen).KeepsMargin ∧
        ((g.exact.icon size none pen).ReachesMargin ↔ ∃ p ∈ g.exact.points, p ≠ ⟨0, 0⟩)) ∧
      ∀ (r : Registry) (name : String) (s : SymbolSet), r.get name = .ok s →
        (∀ entry ∈ s.table, Glyph.IsFinite entry.2) →
          Exactly (commonExtent (s.table.map (·.2))) (commonExtent (s.table.exact.map (·.2))) ∧
            0 < commonExtent (s.table.exact.map (·.2)) ∧
            ∀ southern,
              (r.exportIcons name size southern).files = .ok (iconFiles size southern s.table) ∧
                List.Forall₂ (IconFileOf.Corresponds PointOf.Any)
                  (iconFiles size southern s.table) (iconFiles size southern s.table.exact) ∧
                (∀ file ∈ iconFiles size southern s.table.exact, file.icon.KeepsMargin) ∧
                ∃ file ∈ iconFiles size southern s.table.exact, file.icon.ReachesMargin := by
  constructor
  · intro g pen hfinite
    exact ⟨Glyph.render_eq hsize g none pen, drawnAt_exact size hfinite _ _ pen,
      length_points_icon pen g.exact, keepsMargin_icon hsize pen g.exact,
      reachesMargin_icon_iff hsize pen g.exact⟩
  · intro r name s hget hfinite
    have hextent := s.commonExtent_pos hfinite
    refine ⟨commonExtent_exactly hfinite, hextent, fun southern => ?_⟩
    exact ⟨files_exportIcons hget hsize southern, iconFiles_exact size hfinite southern,
      fun file hfile => keepsMargin_iconFiles hsize hextent southern hfile,
      exists_reachesMargin hsize hextent southern⟩

theorem Registry.icons_keep_margin_standard :
    ∃ s, Registry.initial.get standardName = .ok s ∧
      0 < commonExtent (s.table.exact.map (·.2)) ∧
      (∀ file ∈ iconFiles 9 true s.table.exact, file.icon.KeepsMargin) ∧
      ∃ file ∈ iconFiles 9 true s.table.exact, file.icon.ReachesMargin := by
  obtain ⟨s, -, -, hprofile, hget⟩ := exists_get_initial
  have hfinite := s.isFinite_of_standard hprofile
  obtain ⟨-, hextent, hicons⟩ := (icons_keep_margin le_rfl).2 initial standardName s hget hfinite
  exact ⟨s, hget, hextent, (hicons true).2.2⟩

end WindSymbols
