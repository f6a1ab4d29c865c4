import WindSymbols.Glyph.Basic
import WindSymbols.Number.Layout

/-!
Drawing glyphs into square icons. The station is in the centre, and unless a scale is given the
glyph is fitted so that its farthest point touches the margin. Closed paths of four points are
pennants and are filled; all other paths are strokes.
-/

namespace WindSymbols

def iconMargin : Nat := 4

def smallestIcon : Int := 2 * iconMargin + 1

structure Colour where
  red : Int
  green : Int
  blue : Int
deriving DecidableEq

structure Pen where
  colour : Colour := ⟨255, 255, 255⟩
  width : Int := 3

inductive DrawingOf (α : Type)
  | polygon (points : PathOf α) (fill : Colour)
  | line (points : PathOf α) (fill : Colour) (width : Int)

abbrev Drawing := DrawingOf Binary64

structure IconOf (α : Type) where
  size : Nat
  drawings : List (DrawingOf α)

abbrev Icon := IconOf Binary64

structure IconTooSmall where
  size : Int
deriving DecidableEq

def IconTooSmall.message (e : IconTooSmall) : String :=
  "Invalid icon size " ++ integerText e.size ++ " px (minimum " ++ integerText smallestIcon ++
    " px)"

def iconSize (size : Int) : Except IconTooSmall Nat :=
  if size < smallestIcon then .error ⟨size⟩ else .ok size.toNat

section

variable {α : Type} [Coordinate α]

open Coordinate

/-- Whether the points of a path are nowhere along an axis: none of them can be compared there. -/
def PathOf.isUnplaced (path : PathOf α) : Bool :=
  !path.isEmpty && (path.all (fun p => !same p.x p.x) || path.all (fun p => !same p.y p.y))

def GlyphOf.extent (g : GlyphOf α) : α :=
  g.points.foldl (fun reach p => larger (larger reach (size p.x)) (size p.y)) (ofNat 0)

def iconCentre (size : Nat) : α := ofNat size / ofNat 2

def iconFit (size : Nat) (extent : α) : α := (iconCentre size - ofNat iconMargin) / extent

def PointOf.inIcon (size : Nat) (scale : α) (p : PointOf α) : PointOf α :=
  ⟨iconCentre size + p.x * scale, iconCentre size - p.y * scale⟩

def PathOf.drawn (size : Nat) (scale : α) (pen : Pen) (path : PathOf α) : DrawingOf α :=
  let points := path.map (·.inIcon size scale)
  if path.isClosed && points.length = 4 then .polygon points pen.colour
  else .line points pen.colour pen.width

/-- The scale that brings a glyph to the margin. A path that is nowhere along an axis has no extent
that fits. -/
def GlyphOf.fit (size : Nat) (g : GlyphOf α) : α :=
  if g.any PathOf.isUnplaced then ofNat 0
  else if less (ofNat 0) g.extent then iconFit size g.extent
  else ofNat 1

def GlyphOf.drawnAt (size : Nat) (scale : α) (pen : Pen) (g : GlyphOf α) : IconOf α :=
  ⟨size, List.map (PathOf.drawn size scale pen) g⟩

def GlyphOf.icon (size : Nat) (scale : Option α) (pen : Pen) (g : GlyphOf α) : IconOf α :=
  g.drawnAt size (scale.getD (g.fit size)) pen

end

def Glyph.render (g : Glyph) (size : Int) (scale : Option Binary64) (pen : Pen) :
    Except IconTooSmall Icon := do
  return GlyphOf.icon (← iconSize size) scale pen g

end WindSymbols
