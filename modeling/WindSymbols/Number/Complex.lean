import WindSymbols.Number.Angle
import WindSymbols.Number.Power

/-!
Complex numbers of double precision parts. Sums and products are formed part by part; a quotient
divides by the larger part of its divisor first. Small whole powers are repeated products, and other
powers go by length and angle.
-/

namespace WindSymbols

namespace Binary64

def exp : Binary64 → Binary64
  | finite s m => Power.exponential (signed s m.units * Power.one / unitsPerOne)
  | infinite negative => if negative then zero else infinite false
  | nan => nan

def log : Binary64 → Binary64
  | finite _ m =>
    let sum := Power.logarithm m.units
    ofRatio (decide (sum < 0)) sum.natAbs Power.one
  | infinite _ => infinite false
  | nan => nan

def lengthOf : Binary64 → Binary64 → Binary64
  | infinite _, _ => infinite false
  | _, infinite _ => infinite false
  | nan, _ => nan
  | _, nan => nan
  | finite _ a, finite _ b =>
    let square := (a.units * a.units + b.units * b.units) * twoTo 200
    let root := Nat.sqrt square
    ofUnits false (2 * root + if root * root = square then 0 else 1) (twoTo 101)

end Binary64

structure Complex where
  re : Binary64
  im : Binary64
deriving DecidableEq

namespace Complex

def ofReal (x : Binary64) : Complex := ⟨x, 0⟩

def add (a b : Complex) : Complex := ⟨a.re + b.re, a.im + b.im⟩

def sub (a b : Complex) : Complex := ⟨a.re - b.re, a.im - b.im⟩

def mul (a b : Complex) : Complex := ⟨a.re * b.re - a.im * b.im, a.re * b.im + a.im * b.re⟩

def isZero (a : Complex) : Bool := a.re.isZero && a.im.isZero

def isOne (a : Complex) : Bool := a.re.same 1 && a.im.isZero

def leansReal (b : Complex) : Bool := !b.re.magnitude.lt b.im.magnitude

def div (a b : Complex) : Except NumberFault Complex :=
  if b.isZero then .error .undefined
  else if b.re.isNaN || b.im.isNaN then .ok ⟨.nan, .nan⟩
  else if b.leansReal then
    let ratio := b.im / b.re
    let divisor := b.re + b.im * ratio
    .ok ⟨(a.re + a.im * ratio) / divisor, (a.im - a.re * ratio) / divisor⟩
  else
    let ratio := b.re / b.im
    let divisor := b.re * ratio + b.im
    .ok ⟨(a.re * ratio + a.im) / divisor, (a.im * ratio - a.re) / divisor⟩

def powFrom (product square : Complex) (n : Nat) : Complex :=
  if h : n = 0 then product
  else powFrom (if n % 2 = 1 then product.mul square else product) (square.mul square) (n / 2)
termination_by n
decreasing_by omega

def powNat (a : Complex) (n : Nat) : Complex := powFrom (ofReal 1) a n

def powLength (length exponent : Binary64) : Binary64 :=
  (length.pow exponent).toOption.getD (.infinite false)

/-- A power by length and angle. No direction has an infinite angle. -/
def polarPow (a b : Complex) : Except NumberFault Complex :=
  let length := a.re.lengthOf a.im
  let angle := Angle.ofDirection a.re a.im
  let (scale, turned) :=
    if b.im.isZero then (powLength length b.re, angle * b.re)
    else (powLength length b.re / (angle * b.im).exp, angle * b.re + b.im * length.log)
  if turned.isInfinite then .error .undefined
  else .ok ⟨scale * Angle.cosine turned, scale * Angle.sine turned⟩

def smallExponent? (b : Complex) : Option Int :=
  if b.im.isZero && b.re.isWhole then
    b.re.floor?.bind fun n => if n.natAbs ≤ 100 then some n else none
  else none

def orTooLarge (a : Complex) : Except NumberFault Complex :=
  if a.re.isInfinite || a.im.isInfinite then .error .tooLarge else .ok a

def pow (a b : Complex) : Except NumberFault Complex :=
  match b.smallExponent? with
  | some (.ofNat (n + 1)) => (a.powNat (n + 1)).orTooLarge
  | some n => do ((← (ofReal 1).div (a.powNat n.natAbs))).orTooLarge
  | none =>
    if a.isZero then
      if !b.im.isZero || b.re.lt 0 then .error .undefined else .ok (ofReal 0)
    else do (← polarPow a b).orTooLarge

end Complex
end WindSymbols
