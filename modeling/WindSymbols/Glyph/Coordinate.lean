import WindSymbols.Number.Binary64

/-!
The arithmetic that drawings are made with. It is double precision in an icon, and exact where a
statement is about the geometry and not about rounding.
-/

namespace WindSymbols

class Coordinate (α : Type) extends Neg α, Add α, Sub α, Mul α, Div α where
  ofNat : Nat → α
  less : α → α → Bool
  same : α → α → Bool

namespace Coordinate

variable {α : Type} [Coordinate α]

/-- The larger of two coordinates; one that cannot be compared does not count. -/
def larger (a b : α) : α := if less a b then b else a

def size (a : α) : α := if less a (ofNat 0) then -a else a

end Coordinate

instance : Coordinate Binary64 where
  neg := Binary64.neg
  add := Binary64.add
  sub := Binary64.sub
  mul := Binary64.mul
  div := Binary64.div
  ofNat := Binary64.ofNat
  less := Binary64.lt
  same := Binary64.same

instance : Coordinate Rat where
  neg := Rat.neg
  add := Rat.add
  sub := Rat.sub
  mul := Rat.mul
  div := Rat.div
  ofNat n := Rat.ofInt n
  less := Rat.blt
  same a b := decide (a = b)

end WindSymbols
