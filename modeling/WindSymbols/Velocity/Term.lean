import WindSymbols.Velocity.Amount
import WindSymbols.Velocity.Expression
import WindSymbols.Velocity.Spelling

/-!
What an expression comes to before its names are looked up: a number, or names with their powers
and a number that scales them. Equal names cancel, whatever they stand for. Only numbers can be
added, and only numbers can be exponents.
-/

namespace WindSymbols.Velocity

abbrev Powers := List (String × Scalar)

namespace Powers

def nonzero (powers : Powers) : Powers := powers.filter fun p => !p.2.isZero

def insert (powers : Powers) (name : String) (power : Scalar) : Except NumberFault Powers :=
  match powers with
  | [] => .ok [(name, power)]
  | (other, before) :: rest =>
    if other = name then do
      return (name, ← before.add power) :: rest
    else do
      return (other, before) :: (← insert rest name power)

def times (a b : Powers) : Except NumberFault Powers := do
  return nonzero (← b.foldlM (fun powers p => powers.insert p.1 p.2) a)

def raised (powers : Powers) (exponent : Amount) : Except NumberFault Powers :=
  match exponent with
  | .scalar e => powers.mapM fun p => do return (p.1, ← p.2.mul e)
  | .complex _ => if powers = [] then .ok [] else .error .undefined

end Powers

inductive Term
  | number (value : Amount)
  | scaled (scale : Amount) (powers : Powers)
deriving DecidableEq

namespace Term

def scale : Term → Amount
  | number value => value
  | scaled scale _ => scale

def powers : Term → Powers
  | number _ => []
  | scaled _ powers => powers

def ofName (name : String) : Term := scaled (.whole 1) [(name, .whole 1)]

def build (a b : Term) (scale : Amount) (powers : Powers) : Term :=
  match a, b with
  | number _, number _ => number scale
  | _, _ => scaled scale powers

def times (a b : Term) : Except NumberFault Term := do
  return build a b (← a.scale.mul b.scale) (← a.powers.times b.powers)

def raised (a : Term) (exponent : Amount) : Except NumberFault Term := do
  let scale ← a.scale.pow exponent
  match a with
  | number _ => return number scale
  | scaled _ powers => return scaled scale (← powers.raised exponent)

/-- A quotient of numbers by a rule of theirs. Names in the divisor have their powers negated. -/
def quotient (divide : Amount → Amount → Except NumberFault Amount) (a b : Term) :
    Except NumberFault Term := do
  match a, b with
  | number _, scaled _ _ =>
    let inverse ← b.raised (.whole (-1))
    times a inverse
  | number x, number y => return number (← divide x y)
  | _, _ =>
    return scaled (← a.scale.div b.scale) (← a.powers.times (← b.powers.raised (.whole (-1))))

def ofNumbers? (f : Amount → Amount → Except NumberFault Amount) : Term → Term → Option Term
  | number x, number y => (f x y).toOption.map number
  | _, _ => none

def join? (s : Sign) (a b : Term) : Option Term :=
  match s, a, b with
  | .plus, a, b => ofNumbers? Amount.add a b
  | .minus, a, b => ofNumbers? Amount.sub a b
  | .times, a, b => (times a b).toOption
  | .per, a, b => (quotient Amount.div a b).toOption
  | .perWhole, number _, scaled _ _ => none
  | .perWhole, a, b => (quotient Amount.floorDiv a b).toOption
  | .power, a, number exponent => (a.raised exponent).toOption
  | .power, _, scaled _ _ => none

def sign? (s : Sign) (a : Term) : Option Term :=
  match s with
  | .plus => some a
  | .minus => (times a (number (.whole (-1)))).toOption
  | _ => none

end Term

def Expression.term? : Expression → Option Term
  | .number value => some (.number (.scalar value))
  | .name letters => some (.ofName letters)
  | .signed s of => do Term.sign? s (← of.term?)
  | .joined s left right => do Term.join? s (← left.term?) (← right.term?)

def Term.read? (cs : List Char) : Option Term := do
  (← Expression.read? (Spelling.inSigns cs)).term?

end WindSymbols.Velocity
