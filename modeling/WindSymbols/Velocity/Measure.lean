import WindSymbols.Velocity.Catalogue
import WindSymbols.Velocity.Term

/-!
The measure of a unit expression in knots. Its names have to be known, its dimension has to be a
length over a time, and no number but one may scale it. The scales of all the definitions behind
it are multiplied, those above the line first; scales that stand on both sides cancel.
-/

namespace WindSymbols.Velocity

structure Factor where
  unit : KnownUnit
  power : Scalar
deriving DecidableEq

def isNoUnit (name : String) : Bool := name = "dimensionless"

/-- The units of names with their powers. A unit with a prefix is a name of its own once it has been
met. -/
def factorsFrom? (own : OwnNames) : Powers → Option (List Factor)
  | [] => some []
  | (name, power) :: rest =>
    if isNoUnit name then factorsFrom? own rest
    else do
      let u ← Catalogue.find? own name
      return ⟨u, power⟩ :: (← factorsFrom? (u :: own) rest)

def collect (factors : List Factor) (f : Factor) : Except NumberFault (List Factor) :=
  match factors with
  | [] => .ok (if f.power.isZero then [] else [f])
  | g :: rest =>
    if g.unit.name = f.unit.name then do
      let sum ← g.power.add f.power
      return if sum.isZero then rest else { g with power := sum } :: rest
    else do
      let rest ← collect rest f
      return g :: rest

def factors? (cs : List Char) : Option (List Factor) := do
  let term ← Term.read? (Spelling.nameRatios cs)
  if term.scale.isOne then
    let factors ← factorsFrom? Catalogue.ownNames term.powers
    (factors.foldlM collect []).toOption
  else none

inductive Composition
  | base (dimension : String)
  | scaled (scale : Scalar) (factors : List Factor)

def KnownUnit.composition? (u : KnownUnit) : Option Composition :=
  match u.prefixes with
  | p :: inner => some (.scaled p.size [⟨⟨u.unit, inner⟩, .whole 1⟩])
  | [] =>
    match u.unit.meaning with
    | .base dimension => some (.base dimension)
    | .derived expression => do
      let term ← Term.read? expression.toList
      return .scaled (← term.scale.scalar?) (← factorsFrom? Catalogue.ownNames term.powers)
    | .level => none

inductive Constituent
  | dimension (name : String) (exponent : Scalar)
  | scale (size exponent : Scalar)

/-- All that some units to a power come to, from the first of them on, each followed by what it is
defined by. Definitions follow each other `depth` times at most. -/
def constituents? : Nat → Scalar → List Factor → Option (List Constituent)
  | 0, _, _ => none
  | depth + 1, exponent, factors => do
    let parts ← factors.mapM fun f => do
      let exponent ← (exponent.mul f.power).toOption
      match ← f.unit.composition? with
      | .base dimension => return [Constituent.dimension dimension exponent]
      | .scaled size inner =>
        let rest ← constituents? depth exponent inner
        return Constituent.scale size exponent :: rest
    return parts.flatten

def deepest : Nat := 2 * UnitTable.all.length

def dimensions? (factors : List Factor) : Option Powers := do
  let parts ← constituents? deepest (.whole 1) factors
  let exponents := parts.filterMap fun
    | .dimension name exponent => if name = "" then none else some (name, exponent)
    | .scale .. => none
  (Powers.times [] exponents).toOption

def isVelocity (dimensions : Powers) : Bool :=
  dimensions.length = 2 && dimensions.all fun p =>
    p.1 = "length" && p.2.same (.whole 1) || p.1 = "time" && p.2.same (.whole (-1))

abbrev Scales := List (Scalar × Scalar)

namespace Scales

def insert (scales : Scales) (size exponent : Scalar) : Except NumberFault Scales :=
  match scales with
  | [] => .ok [(size, exponent)]
  | (other, before) :: rest =>
    if other.same size then do
      let sum ← before.add exponent
      return (other, sum) :: rest
    else do
      let rest ← insert rest size exponent
      return (other, before) :: rest

def exponent? (scales : Scales) (size : Scalar) : Option Scalar :=
  (scales.find? fun s => s.1.same size).map (·.2)

/-- Scales without what the other side of the line has as much of, or more. Where both sides have
as much, it stays on the one that is told to keep it. -/
def reduced (scales other : Scales) (keepsEqual : Bool) : Except NumberFault Scales := do
  let kept := scales.filter fun s =>
    match exponent? other s.1 with
    | none => true
    | some e => e.lt s.2 || keepsEqual && e.same s.2
  kept.mapM fun s =>
    match exponent? other s.1 with
    | none => .ok s
    | some e => do return (s.1, ← s.2.sub e)

def times (scales : Scales) (value : Scalar) : Except NumberFault Scalar :=
  scales.foldlM (fun value s => do value.mul (← s.1.pow s.2)) value

def inverse (scales : Scales) : Except NumberFault Scales :=
  scales.mapM fun s => do return (s.1, ← s.2.mul (.whole (-1)))

end Scales

structure Fraction where
  above : Scales := []
  below : Scales := []

namespace Fraction

def insert (f : Fraction) : Constituent → Except NumberFault Fraction
  | .dimension .. => .ok f
  | .scale size exponent => do
    if exponent.isPositive then return { f with above := ← f.above.insert size exponent }
    else if exponent.isNegative then
      return { f with below := ← f.below.insert size (← exponent.mul (.whole (-1))) }
    else return f

def value (f : Fraction) : Except NumberFault Scalar := do
  let above ← f.above.reduced f.below false
  let below ← (← f.below.reduced f.above true).inverse
  below.times (← above.times (.whole 1))

end Fraction

def knot : KnownUnit := ⟨UnitTable.knot, []⟩

def isKnot (factors : List Factor) : Bool :=
  match factors with
  | [f] => f.unit.name = knot.name && f.power.same (.whole 1)
  | _ => false

def inKnots? (factors : List Factor) : Option Binary64 :=
  if isKnot factors then some 1
  else do
    let ratio ← (collect factors ⟨knot, .whole (-1)⟩).toOption
    let parts ← constituents? deepest (.whole 1) ratio
    let fraction ← (parts.foldlM Fraction.insert {}).toOption
    (← fraction.value.toOption).toBinary64.toOption

def measure? (cs : List Char) : Option Binary64 := do
  let factors ← factors? cs
  if isVelocity (← dimensions? factors) then inKnots? factors else none

end WindSymbols.Velocity
