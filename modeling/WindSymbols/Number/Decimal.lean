import WindSymbols.Number.Binary64

/-!
Decimal numbers `coefficient * 10 ^ exponent`, their nearest double precision numbers, and the
decimal with a given count of digits nearest to a quotient.
-/

namespace WindSymbols

open Rounding

structure Decimal where
  coefficient : Nat
  exponent : Int
deriving DecidableEq

def digitsOf (n : Nat) : List Char := Nat.toDigits 10 n

def valueOfDigits (cs : List Char) : Nat :=
  cs.foldl (fun n c => 10 * n + (c.toNat - '0'.toNat)) 0

/-- The integer part of `num / den` times a power of ten, with its remainder and divisor. -/
structure Scaled where
  num : Nat
  den : Nat

namespace Scaled

def ofQuotient (num den : Nat) (power : Int) : Scaled :=
  ⟨num * tenTo power.toNat, den * tenTo (-power).toNat⟩

def floor (s : Scaled) : Nat := s.num / s.den

def nearest (s : Scaled) : Nat := Rounding.nearest s.num s.den

end Scaled

def leadingPower (num den : Nat) : Int :=
  if den ≤ num then
    ((digitsOf (num / den)).length : Int) - 1
  else
    let k := (digitsOf (den / num)).length - 1
    if den ≤ num * tenTo k then -(k : Int) else -(k : Int) - 1

namespace Decimal

def leading (d : Decimal) : Int := ((digitsOf d.coefficient).length : Int) - 1 + d.exponent

def trimmed (d : Decimal) : Decimal :=
  if d.coefficient = 0 then ⟨0, 0⟩
  else
    let zeros := ((digitsOf d.coefficient).reverse.takeWhile (· == '0')).length
    ⟨d.coefficient / tenTo zeros, d.exponent + zeros⟩

/-- The nearest double precision number. A value of 10^310 or more is infinite and one below
10^-400 is zero, whatever the digits, so no larger power of ten is ever formed. -/
def toBinary64 (negative : Bool) (d : Decimal) : Binary64 :=
  if d.coefficient = 0 then .finite negative .zero
  else if 310 ≤ d.leading then .infinite negative
  else if d.leading < -400 then .finite negative .zero
  else
    let s := Scaled.ofQuotient d.coefficient 1 d.exponent
    .ofRatio negative s.num s.den

/-- The decimal of `count` digits nearest to `num / den`; a tie goes to the even digit. -/
def ofQuotient (count num den : Nat) : Decimal :=
  if num = 0 then ⟨0, 0⟩
  else
    let last := leadingPower num den - (count - 1 : Nat)
    ⟨(Scaled.ofQuotient num den (-last)).nearest, last⟩

end Decimal

def Binary64.roundDigits (count : Nat) : Binary64 → Binary64
  | .finite s m => (Decimal.ofQuotient count m.units unitsPerOne).toBinary64 s
  | x => x

end WindSymbols
