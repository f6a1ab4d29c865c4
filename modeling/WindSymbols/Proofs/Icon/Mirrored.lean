import WindSymbols.Icon.Export
import WindSymbols.Proofs.Glyph.Exact
import WindSymbols.Proofs.Symbols.Building
import WindSymbols.Proofs.Symbols.Reachable
import Mathlib.Tactic.Ring

/-! Southern icons as mirror images of northern ones. A point drawn from a reflected glyph lies
across the middle of the icon (`inIcon_reflected`), a glyph reaches as far as its mirror image
(`extent_reflected`), and reflection closes no path and opens none. So the drawings of both
hemispheres are the same up to that reflection (`Registry.exports_mirrored`), in exact arithmetic;
rounding changes neither their kinds nor how many points they have (`drawnAt_exact`). -/

namespace WindSymbols

open Binary64

inductive DrawingOf.Corresponds {α β : Type} (R : PointOf α → PointOf β → Prop) :
    DrawingOf α → DrawingOf β → Prop
  | polygon {points : PathOf α} {others : PathOf β} {fill : Colour}
      (h : List.Forall₂ R points others) :
      Corresponds R (.polygon points fill) (.polygon others fill)
  | line {points : PathOf α} {others : PathOf β} {fill : Colour} {width : Int}
      (h : List.Forall₂ R points others) :
      Corresponds R (.line points fill width) (.line others fill width)

structure IconOf.Corresponds {α β : Type} (R : PointOf α → PointOf β → Prop) (a : IconOf α)
    (b : IconOf β) : Prop where
  size : a.size = b.size
  drawings : List.Forall₂ (DrawingOf.Corresponds R) a.drawings b.drawings

structure IconFileOf.Corresponds {α β : Type} (R : PointOf α → PointOf β → Prop)
    (a : IconFileOf α) (b : IconFileOf β) : Prop where
  name : a.name = b.name
  icon : a.icon.Corresponds R b.icon

def PointOf.Mirrored (size : Nat) (p q : PointOf ℚ) : Prop := q = ⟨size - p.x, p.y⟩

/-- Any two points, where only kinds and numbers of points are compared. -/
def PointOf.Any {α β : Type} (_ : PointOf α) (_ : PointOf β) : Prop := True

section Correspondence

variable {α β : Type} [Coordinate α] [Coordinate β] {R : PointOf α → PointOf β → Prop}

theorem PathOf.drawn_corresponds {size : Nat} {scale : α} {scale' : β} (pen : Pen)
    {path : PathOf α} {other : PathOf β} (hclosed : other.isClosed = path.isClosed)
    (hpoints : List.Forall₂ R (path.map (PointOf.inIcon size scale))
      (other.map (PointOf.inIcon size scale'))) :
    DrawingOf.Corresponds R (path.drawn size scale pen) (other.drawn size scale' pen) := by
  have hlength := hpoints.length_eq
  unfold PathOf.drawn
  dsimp only
  rw [hclosed, hlength]
  split
  · exact .polygon hpoints
  · exact .line hpoints

/-- A map of points that closes no path and opens none is a map of drawings. -/
theorem GlyphOf.drawnAt_corresponds {size : Nat} {scale : α} {scale' : β} (pen : Pen)
    {f : PointOf α → PointOf β} {g : GlyphOf α}
    (hclosed : ∀ path ∈ g, PathOf.isClosed (path.map f) = PathOf.isClosed path)
    (hpoints : ∀ p : PointOf α, R (p.inIcon size scale) ((f p).inIcon size scale')) :
    (g.drawnAt size scale pen).Corresponds R
      (GlyphOf.drawnAt size scale' pen (List.map (List.map f) g)) where
  size := rfl
  drawings := by
    rw [GlyphOf.drawnAt, GlyphOf.drawnAt, List.map_map, List.forall₂_map_left_iff,
      List.forall₂_map_right_iff, List.forall₂_same]
    intro path hpath
    refine PathOf.drawn_corresponds pen (hclosed path hpath) ?_
    rw [List.map_map, List.forall₂_map_left_iff, List.forall₂_map_right_iff, List.forall₂_same]
    exact fun p _ => hpoints p

end Correspondence

section Rational

variable (size : Nat)

theorem inIcon_rat (scale : ℚ) (p : PointOf ℚ) :
    p.inIcon size scale = ⟨size / 2 + p.x * scale, size / 2 - p.y * scale⟩ := rfl

theorem inIcon_reflected (scale : ℚ) (p : PointOf ℚ) :
    PointOf.Mirrored size (p.inIcon size scale) (p.reflected.inIcon size scale) := by
  have hx : (size / 2 + -p.x * scale : ℚ) = size - (size / 2 + p.x * scale) := by ring
  rw [PointOf.Mirrored, PointOf.reflected_rat, inIcon_rat, inIcon_rat, hx]

theorem drawnAt_reflected (scale : ℚ) (pen : Pen) (g : GlyphOf ℚ) :
    (g.drawnAt size scale pen).Corresponds (PointOf.Mirrored size)
      (g.reflected.drawnAt size scale pen) :=
  GlyphOf.drawnAt_corresponds pen (fun path _ => Glyph.isClosed_map_reflected_rat path)
    (inIcon_reflected size scale)

theorem extent_reflected (g : GlyphOf ℚ) : g.reflected.extent = g.extent := by
  have hpoints : g.reflected.points = g.points.map PointOf.reflected := by
    simp only [GlyphOf.points, GlyphOf.reflected, List.map_flatten]
  unfold GlyphOf.extent
  rw [hpoints, List.foldl_map]
  simp only [PointOf.reflected_rat, Coordinate.size_rat, abs_neg]

theorem isUnplaced_rat (path : PathOf ℚ) : path.isUnplaced = false := by
  cases path with
  | nil => rfl
  | cons p rest => simp [PathOf.isUnplaced, Coordinate.same_rat]

theorem any_isUnplaced_rat (g : GlyphOf ℚ) : g.any PathOf.isUnplaced = false :=
  List.any_eq_false.mpr fun path _ => by simp [isUnplaced_rat]

theorem fit_reflected (g : GlyphOf ℚ) : g.reflected.fit size = g.fit size := by
  unfold GlyphOf.fit
  rw [any_isUnplaced_rat, any_isUnplaced_rat, extent_reflected]

theorem icon_reflected (pen : Pen) (g : GlyphOf ℚ) :
    (g.icon size none pen).Corresponds (PointOf.Mirrored size)
      (g.reflected.icon size none pen) := by
  unfold GlyphOf.icon
  rw [fit_reflected]
  exact drawnAt_reflected size _ pen g

theorem iconFiles_southern (table : List (Bucket × GlyphOf ℚ)) :
    List.Forall₂ (IconFileOf.Corresponds (PointOf.Mirrored size)) (iconFiles size false table)
      (iconFiles size true table) := by
  unfold iconFiles
  rw [List.forall₂_map_left_iff, List.forall₂_map_right_iff, List.forall₂_same]
  exact fun entry _ => ⟨rfl, drawnAt_reflected size _ {} entry.2⟩

end Rational

section Rounded

variable (size : Nat) {g : Glyph} (h : g.IsFinite)

include h

/-- Rounding changes neither the kinds of the drawings of a glyph nor how many points they have. -/
theorem drawnAt_exact (scale : Binary64) (scale' : ℚ) (pen : Pen) :
    (g.drawnAt size scale pen).Corresponds PointOf.Any (g.exact.drawnAt size scale' pen) :=
  GlyphOf.drawnAt_corresponds pen (fun path hpath => Glyph.isClosed_exact (h path hpath))
    fun _ => trivial

theorem drawnAt_any_reflected (scale scale' : Binary64) (pen : Pen) :
    (g.drawnAt size scale pen).Corresponds PointOf.Any (g.reflected.drawnAt size scale' pen) :=
  GlyphOf.drawnAt_corresponds pen (fun path hpath => Glyph.isClosed_map_reflected (h path hpath))
    fun _ => trivial

end Rounded

def GlyphTable.exact (table : GlyphTable) : List (Bucket × GlyphOf ℚ) :=
  table.map fun entry => (entry.1, entry.2.exact)

section Tables

variable (size : Nat) {table : GlyphTable} (h : ∀ entry ∈ table, Glyph.IsFinite entry.2)

include h

theorem iconFiles_any_southern :
    List.Forall₂ (IconFileOf.Corresponds PointOf.Any) (iconFiles size false table)
      (iconFiles size true table) := by
  unfold iconFiles
  rw [List.forall₂_map_left_iff, List.forall₂_map_right_iff, List.forall₂_same]
  exact fun entry hentry => ⟨rfl, drawnAt_any_reflected size (h entry hentry) _ _ {}⟩

theorem iconFiles_exact (southern : Bool) :
    List.Forall₂ (IconFileOf.Corresponds PointOf.Any) (iconFiles size southern table)
      (iconFiles size southern table.exact) := by
  unfold iconFiles
  rw [GlyphTable.exact, List.map_map, List.map_map, List.forall₂_map_left_iff,
    List.forall₂_map_right_iff, List.forall₂_same]
  intro entry hentry
  refine ⟨rfl, ?_⟩
  cases southern with
  | false => exact drawnAt_exact size (h entry hentry) _ _ {}
  | true =>
    have hexact := drawnAt_exact size (Glyph.isFinite_reflected (h entry hentry))
    rw [Glyph.exact_reflected (h entry hentry)] at hexact
    exact hexact _ _ {}

end Tables

theorem iconSize_eq_ok {size : Nat} (h : 9 ≤ size) : iconSize size = .ok size := by
  unfold iconSize
  rw [if_neg (by simp only [smallestIcon, iconMargin]; omega), Int.toNat_natCast]

theorem Glyph.render_eq {size : Nat} (h : 9 ≤ size) (g : Glyph) (scale : Option Binary64)
    (pen : Pen) : g.render size scale pen = .ok (GlyphOf.icon size scale pen g) := by
  rw [Glyph.render, iconSize_eq_ok h]
  rfl

theorem Registry.files_exportIcons {r : Registry} {name : String} {s : SymbolSet} {size : Nat}
    (hget : r.get name = .ok s) (h : 9 ≤ size) (southern : Bool) :
    (r.exportIcons name size southern).files = .ok (iconFiles size southern s.table) := by
  simp only [Registry.exportIcons, iconSize_eq_ok h, hget]

/-- Southern icons are mirror images of northern ones. An export writes files of the same names in
the same order for both hemispheres, with drawings of the same kinds and numbers of points. These
are the drawings that exact arithmetic makes, where they are mirror images point by point. So it is
with a single glyph that is fitted into its icon. -/
theorem Registry.exports_mirrored {size : Nat} (hsize : 9 ≤ size) :
    (∀ (r : Registry) (name : String) (s : SymbolSet), r.get name = .ok s →
      (∀ entry ∈ s.table, Glyph.IsFinite entry.2) →
        ∃ north south, (r.exportIcons name size false).files = .ok north ∧
          (r.exportIcons name size true).files = .ok south ∧
          List.Forall₂ (IconFileOf.Corresponds PointOf.Any) north south ∧
          List.Forall₂ (IconFileOf.Corresponds PointOf.Any) north
            (iconFiles size false s.table.exact) ∧
          List.Forall₂ (IconFileOf.Corresponds PointOf.Any) south
            (iconFiles size true s.table.exact) ∧
          List.Forall₂ (IconFileOf.Corresponds (PointOf.Mirrored size))
            (iconFiles size false s.table.exact) (iconFiles size true s.table.exact)) ∧
      ∀ (g : Glyph) (pen : Pen), g.IsFinite →
        ∃ north south, g.render size none pen = .ok north ∧
          Glyph.render g.reflected size none pen = .ok south ∧
          north.Corresponds PointOf.Any south ∧
          north.Corresponds PointOf.Any (g.exact.icon size none pen) ∧
          south.Corresponds PointOf.Any ((Glyph.exact g.reflected).icon size none pen) ∧
          (g.exact.icon size none pen).Corresponds (PointOf.Mirrored size)
            ((Glyph.exact g.reflected).icon size none pen) := by
  constructor
  · intro r name s hget hfinite
    refine ⟨_, _, files_exportIcons hget hsize false, files_exportIcons hget hsize true, ?_⟩
    exact ⟨iconFiles_any_southern size hfinite, iconFiles_exact size hfinite false,
      iconFiles_exact size hfinite true, iconFiles_southern size s.table.exact⟩
  · intro g pen hfinite
    refine ⟨_, _, Glyph.render_eq hsize g none pen, Glyph.render_eq hsize _ none pen, ?_⟩
    refine ⟨drawnAt_any_reflected size hfinite _ _ pen, drawnAt_exact size hfinite _ _ pen,
      drawnAt_exact size (Glyph.isFinite_reflected hfinite) _ _ pen, ?_⟩
    rw [Glyph.exact_reflected hfinite]
    exact icon_reflected size pen g.exact

theorem Registry.exports_mirrored_standard :
    ∃ s north south, Registry.initial.get standardName = .ok s ∧
      (Registry.initial.exportIcons standardName 64 false).files = .ok north ∧
      (Registry.initial.exportIcons standardName 64 true).files = .ok south ∧
      List.Forall₂ (IconFileOf.Corresponds PointOf.Any) north south ∧
      List.Forall₂ (IconFileOf.Corresponds (PointOf.Mirrored 64))
        (iconFiles 64 false s.table.exact) (iconFiles 64 true s.table.exact) := by
  obtain ⟨s, -, -, hprofile, hget⟩ := exists_get_initial
  have hfinite := SymbolSet.isFinite_of_standard hprofile
  obtain ⟨north, south, hnorth, hsouth, hany, -, -, hmirrored⟩ :=
    (exports_mirrored (show 9 ≤ 64 by decide)).1 initial standardName s hget hfinite
  exact ⟨s, north, south, hget, hnorth, hsouth, hany, hmirrored⟩

end WindSymbols
