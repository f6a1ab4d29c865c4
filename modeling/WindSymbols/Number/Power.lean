import WindSymbols.Number.Division

/-!
Powers. A power of double precision numbers with a small whole exponent is rounded from the exact
one; any other is the exponential of a multiple of a logarithm. Logarithm and exponential are
summed on integers counting 2^-400, far finer than the rounding that follows. Whole numbers to a
natural power stay exact.
-/

namespace WindSymbols

namespace Power

/-- Units of the sums in one. -/
def one : Nat := twoTo 400

def oddTerms (square : Nat) : Nat → Nat → Nat → Nat
  | 0, _, _ => 0
  | terms + 1, k, power => power / k + oddTerms square terms (k + 2) (power * square / one)

def logarithmOf (z : Nat) : Nat := 2 * oddTerms (z * z / one) 130 1 z

def logarithmOfTwo : Nat := logarithmOf (one / 3)

def logarithm (units : Nat) : Int :=
  let leading := twoTo units.log2
  let factor := logarithmOf ((units - leading) * one / (units + leading))
  factor + ((units.log2 : Int) - 1074) * logarithmOfTwo

def exponentialTerms (x : Nat) : Nat → Nat → Nat → Nat
  | 0, _, _ => 0
  | terms + 1, k, term => term + exponentialTerms x terms (k + 1) (term * x / (one * k))

/-- The exponential of a sum. Beyond 800 on either side double precision has only infinity and
zero. -/
def exponential (x : Int) : Binary64 :=
  if (800 * one : Nat) < x then .infinite false
  else if x < -(800 * one : Nat) then .zero
  else
    let twos := x.fdiv logarithmOfTwo
    let factor := exponentialTerms (x.fmod logarithmOfTwo).toNat 100 1 one
    .ofRatio false (factor * twoTo twos.toNat) (one * twoTo (-twos).toNat)

/-- Whole exponents up to this one are taken exactly: beyond it no power lies halfway between two
numbers. -/
def exactExponents : Nat := 64

def ofMagnitudes (base : Nat) (negative : Bool) (exponent : Nat) : Binary64 :=
  let count := exponent / unitsPerOne
  if exponent % unitsPerOne = 0 ∧ count ≤ exactExponents then
    let num := Nat.pow base count
    let den := twoTo (1074 * count)
    if negative then .ofRatio false den num else .ofRatio false num den
  else
    exponential (logarithm base * Binary64.signed negative exponent / unitsPerOne)

end Power

namespace Binary64

def isWhole : Binary64 → Bool
  | finite _ m => m.units % unitsPerOne = 0
  | _ => false

def isOdd : Binary64 → Bool
  | finite _ m => m.units % unitsPerOne = 0 && m.units / unitsPerOne % 2 = 1
  | _ => false

def magnitude : Binary64 → Binary64 := withSign false

def powInfinite (base : Binary64) (negative : Bool) : Binary64 :=
  if base.magnitude.same 1 then 1
  else if base.magnitude.lt 1 = negative then infinite false
  else 0

/-- A power of finite numbers. A negative base has powers with whole exponents only. -/
def powFinite (s : Bool) (base : Magnitude) (t : Bool) (exponent : Magnitude) :
    Except NumberFault Binary64 :=
  let y := finite t exponent
  let negative := s && y.isOdd
  if base.units = 0 then
    if t then .error .undefined else .ok (finite negative .zero)
  else if s && !y.isWhole then .error .undefined
  else if base.units = unitsPerOne then .ok (one.withSign negative)
  else ((Power.ofMagnitudes base.units t exponent.units).withSign negative).orTooLarge

def pow (x y : Binary64) : Except NumberFault Binary64 :=
  if y.isZero || x.same 1 then .ok 1
  else
    match x, y with
    | nan, _ => .ok nan
    | _, nan => .ok nan
    | x, infinite t => .ok (x.powInfinite t)
    | infinite s, finite t n =>
      let negative := s && (finite t n).isOdd
      .ok (if t then zero.withSign negative else infinite negative)
    | finite s m, finite t n => powFinite s m t n

end Binary64

namespace Scalar

/-- Powers with more binary digits than this are not formed. -/
def digitLimit : Nat := 4000000

def powNat (base : Int) (exponent : Nat) : Except NumberFault Scalar :=
  if base.natAbs ≤ 1 then
    .ok (whole (if exponent = 0 then 1 else if exponent % 2 = 0 then base * base else base))
  else if digitLimit < base.natAbs.log2 * exponent then .error .tooLarge
  else .ok (whole (Int.pow base exponent))

def pow : Scalar → Scalar → Except NumberFault Scalar
  | whole base, whole (.ofNat exponent) => powNat base exponent
  | a, b => do
    let x ← a.toBinary64
    let y ← b.toBinary64
    return real (← x.pow y)

end Scalar
end WindSymbols
