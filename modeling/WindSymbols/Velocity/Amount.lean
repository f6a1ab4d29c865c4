import WindSymbols.Number.Complex

/-!
The numbers of unit expressions: scalars, and complex numbers, which come from powers of negative
numbers. Where a complex number takes part, every other one is counted as complex.
-/

namespace WindSymbols.Velocity

inductive Amount
  | scalar (s : Scalar)
  | complex (z : Complex)
deriving DecidableEq

namespace Amount

def whole (n : Int) : Amount := scalar (.whole n)

def toComplex : Amount → Except NumberFault Complex
  | scalar s => do return .ofReal (← s.toBinary64)
  | complex z => .ok z

def isOne : Amount → Bool
  | scalar s => s.same (.whole 1)
  | complex z => z.isOne

def scalar? : Amount → Option Scalar
  | scalar s => some s
  | complex _ => none

/-- An operation on scalars among themselves, and on complex numbers wherever one is complex. -/
def combine (onScalars : Scalar → Scalar → Except NumberFault Amount)
    (onComplex : Complex → Complex → Except NumberFault Complex) :
    Amount → Amount → Except NumberFault Amount
  | scalar s, scalar t => onScalars s t
  | a, b => do return complex (← onComplex (← a.toComplex) (← b.toComplex))

def scalars (f : Scalar → Scalar → Except NumberFault Scalar) (s t : Scalar) :
    Except NumberFault Amount := do
  return scalar (← f s t)

def add : Amount → Amount → Except NumberFault Amount :=
  combine (scalars Scalar.add) fun x y => .ok (x.add y)

def sub : Amount → Amount → Except NumberFault Amount :=
  combine (scalars Scalar.sub) fun x y => .ok (x.sub y)

def mul : Amount → Amount → Except NumberFault Amount :=
  combine (scalars Scalar.mul) fun x y => .ok (x.mul y)

def div : Amount → Amount → Except NumberFault Amount :=
  combine (scalars Scalar.div) Complex.div

def floorDiv : Amount → Amount → Except NumberFault Amount :=
  combine (scalars Scalar.floorDiv) fun _ _ => .error .undefined

def powIsComplex (base exponent : Binary64) : Bool :=
  base.isFinite && base.lt 0 && exponent.isFinite && !exponent.isWhole

def powScalars (s t : Scalar) : Except NumberFault Amount :=
  match s, t with
  | .whole _, .whole _ => scalars Scalar.pow s t
  | s, t => do
    let x ← s.toBinary64
    let y ← t.toBinary64
    if powIsComplex x y then
      return complex (← (Complex.ofReal x).pow (.ofReal y))
    else return scalar (.real (← x.pow y))

def pow : Amount → Amount → Except NumberFault Amount := combine powScalars Complex.pow

end Amount
end WindSymbols.Velocity
