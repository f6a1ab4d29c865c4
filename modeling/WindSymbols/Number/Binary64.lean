import WindSymbols.Number.Rounding

/-!
Double precision numbers. A finite number is a sign and a magnitude counted in units of 2^-1074,
so order, sums and rounding all happen on integers. Every operation is the exact one followed by
a single rounding to the nearest number, ties to even.
-/

namespace WindSymbols

open Rounding

def unitsPerOne : Nat := twoTo 1074

def unitsLimit : Nat := twoTo 2098

structure Magnitude where
  units : Nat
  onGrid : OnGrid 53 units
  lt_limit : units < unitsLimit
deriving DecidableEq

inductive Binary64
  | nan
  | infinite (negative : Bool)
  | finite (negative : Bool) (magnitude : Magnitude)
deriving DecidableEq

namespace Magnitude

def zero : Magnitude := ⟨0, by decide, by decide +kernel⟩

def one : Magnitude := ⟨unitsPerOne, by decide +kernel, by decide +kernel⟩

end Magnitude

/-- Where a number lies on the line: beyond every integer, or at a count of units. -/
inductive Position
  | below
  | at (units : Int)
  | above
deriving DecidableEq

namespace Position

def lt : Position → Position → Bool
  | below, below => false
  | below, _ => true
  | «at» a, «at» b => a < b
  | «at» _, above => true
  | _, _ => false

end Position

namespace Binary64

def signed (negative : Bool) (units : Nat) : Int :=
  if negative then -(units : Int) else units

def zero : Binary64 := finite false .zero

def one : Binary64 := finite false .one

/-- The number nearest to `num / den` units with the given sign, infinite beyond the largest. -/
def ofUnits (negative : Bool) (num den : Nat) : Binary64 :=
  let units := toGrid 53 num den
  if h : units < unitsLimit then
    finite negative ⟨units, onGrid_toGrid (by decide) num den, h⟩
  else
    infinite negative

def ofRatio (negative : Bool) (num den : Nat) : Binary64 :=
  ofUnits negative (num * unitsPerOne) den

def ofNat (n : Nat) : Binary64 := ofRatio false n 1

def ofInt (n : Int) : Binary64 := ofRatio (decide (n < 0)) n.natAbs 1

instance : NatCast Binary64 := ⟨ofNat⟩
instance (n : Nat) : OfNat Binary64 n := ⟨ofNat n⟩

def isNaN : Binary64 → Bool
  | nan => true
  | _ => false

def isInfinite : Binary64 → Bool
  | infinite _ => true
  | _ => false

def isFinite : Binary64 → Bool
  | finite .. => true
  | _ => false

def isNegative : Binary64 → Bool
  | nan => false
  | infinite s => s
  | finite s _ => s

def toRat : Binary64 → Rat
  | finite s m => mkRat (signed s m.units) unitsPerOne
  | _ => 0

def position? : Binary64 → Option Position
  | nan => none
  | infinite s => some (if s then .below else .above)
  | finite s m => some (.at (signed s m.units))

/-- NaN is not below, above or equal to anything. -/
def lt (a b : Binary64) : Bool :=
  match a.position?, b.position? with
  | some p, some q => p.lt q
  | _, _ => false

def same (a b : Binary64) : Bool :=
  match a.position?, b.position? with
  | some p, some q => p = q
  | _, _ => false

instance : LT Binary64 := ⟨fun a b => a.lt b = true⟩
instance (a b : Binary64) : Decidable (a < b) := inferInstanceAs (Decidable (_ = true))

def neg : Binary64 → Binary64
  | nan => nan
  | infinite s => infinite !s
  | finite s m => finite (!s) m

/-- An exact cancellation is a positive zero, and two negative zeros sum to a negative one. -/
def add : Binary64 → Binary64 → Binary64
  | nan, _ => nan
  | _, nan => nan
  | infinite s, infinite t => if s = t then infinite s else nan
  | infinite s, finite .. => infinite s
  | finite .., infinite t => infinite t
  | finite s a, finite t b =>
    let sum := signed s a.units + signed t b.units
    if sum = 0 then finite (s && t) .zero else ofUnits (sum < 0) sum.natAbs 1

def sub (a b : Binary64) : Binary64 := add a (neg b)

def mul : Binary64 → Binary64 → Binary64
  | nan, _ => nan
  | _, nan => nan
  | infinite s, infinite t => infinite (s != t)
  | infinite s, finite t b => if b.units = 0 then nan else infinite (s != t)
  | finite s a, infinite t => if a.units = 0 then nan else infinite (s != t)
  | finite s a, finite t b => ofUnits (s != t) (a.units * b.units) unitsPerOne

def div : Binary64 → Binary64 → Binary64
  | nan, _ => nan
  | _, nan => nan
  | infinite _, infinite _ => nan
  | infinite s, finite t _ => infinite (s != t)
  | finite s _, infinite t => finite (s != t) .zero
  | finite s a, finite t b =>
    if b.units = 0 then
      if a.units = 0 then nan else infinite (s != t)
    else
      ofUnits (s != t) (a.units * unitsPerOne) b.units

instance : Neg Binary64 := ⟨neg⟩
instance : Add Binary64 := ⟨add⟩
instance : Sub Binary64 := ⟨sub⟩
instance : Mul Binary64 := ⟨mul⟩
instance : Div Binary64 := ⟨div⟩

def floor? : Binary64 → Option Int
  | finite s m => some (signed s m.units / unitsPerOne)
  | _ => none

end Binary64
end WindSymbols
