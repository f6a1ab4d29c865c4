import WindSymbols.Number.Scalar

/-!
Quotients of scalars. The quotient of two whole numbers is rounded once, to double precision; a
floored quotient of them stays whole. Division by zero has no result, even of real numbers, for
which `Division` gives the floored quotient with its remainder.
-/

namespace WindSymbols

namespace Binary64

def isZero (x : Binary64) : Bool := x.same 0

def remainder : Binary64 → Binary64 → Binary64
  | finite s a, finite _ b => if b.units = 0 then nan else ofUnits s (a.units % b.units) 1
  | finite s a, infinite _ => finite s a
  | _, _ => nan

def floor (x : Binary64) : Binary64 :=
  match x.floor? with
  | some n => ofInt n
  | none => x

def withSign (negative : Bool) : Binary64 → Binary64
  | nan => nan
  | infinite _ => infinite negative
  | finite _ m => finite negative m

/-- A floored quotient and the remainder, which has the sign of the divisor. -/
structure Division where
  quotient : Binary64
  remainder : Binary64

/-- The whole number next to a quotient that is whole but for its rounding. -/
def wholeQuotient (quotient : Binary64) : Binary64 :=
  let whole := quotient.floor
  if Binary64.ofRatio false 1 2 < quotient - whole then whole + 1 else whole

def divide (x y : Binary64) : Division :=
  let rest := x.remainder y
  let quotient := (x - rest) / y
  let (quotient, rest) :=
    if rest.isZero then (quotient, zero.withSign y.isNegative)
    else if y.lt 0 = rest.lt 0 then (quotient, rest)
    else (quotient - 1, rest + y)
  if quotient.isZero then ⟨zero.withSign (x / y).isNegative, rest⟩
  else ⟨wholeQuotient quotient, rest⟩

end Binary64

namespace Scalar

def div : Scalar → Scalar → Except NumberFault Scalar :=
  combine
    (fun m n =>
      if n = 0 then .error .undefined
      else do
        let negative := decide (m < 0) != decide (n < 0)
        return real (← (Binary64.ofRatio negative m.natAbs n.natAbs).orTooLarge))
    (fun x y => if y.isZero then .error .undefined else .ok (real (x / y)))

def floorDiv : Scalar → Scalar → Except NumberFault Scalar :=
  combine
    (fun m n => if n = 0 then .error .undefined else .ok (whole (m.fdiv n)))
    (fun x y => if y.isZero then .error .undefined else .ok (real (x.divide y).quotient))

end Scalar
end WindSymbols
