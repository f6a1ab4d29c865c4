import WindSymbols.Glyph.Coordinate

/-!
Glyphs: paths through points. The station is the origin and the shaft points up. In the southern
hemisphere a glyph is reflected across its shaft.
-/

namespace WindSymbols

structure PointOf (α : Type) where
  x : α
  y : α
deriving DecidableEq

abbrev PathOf (α : Type) := List (PointOf α)

abbrev GlyphOf (α : Type) := List (PathOf α)

abbrev Point := PointOf Binary64

abbrev Path := PathOf Binary64

abbrev Glyph := GlyphOf Binary64

namespace PointOf

variable {α β : Type}

def map (f : α → β) (p : PointOf α) : PointOf β := ⟨f p.x, f p.y⟩

/-- Reflection is a linear map, so a coordinate that is not finite spoils the other one. -/
def reflected [Coordinate α] (p : PointOf α) : PointOf α :=
  ⟨-p.x + Coordinate.ofNat 0 * p.y, Coordinate.ofNat 0 * p.x + p.y⟩

def same [Coordinate α] (p q : PointOf α) : Bool :=
  Coordinate.same p.x q.x && Coordinate.same p.y q.y

end PointOf

def PathOf.isClosed {α : Type} [Coordinate α] (path : PathOf α) : Bool :=
  match path.head?, path.getLast? with
  | some first, some last => first.same last
  | _, _ => false

namespace GlyphOf

variable {α β : Type}

def map (f : α → β) (g : GlyphOf α) : GlyphOf β := List.map (List.map (PointOf.map f)) g

def reflected [Coordinate α] (g : GlyphOf α) : GlyphOf α := List.map (List.map PointOf.reflected) g

def points (g : GlyphOf α) : List (PointOf α) := g.flatten

end GlyphOf
end WindSymbols
