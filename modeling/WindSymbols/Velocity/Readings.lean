import WindSymbols.Number.Single
import WindSymbols.Velocity.Knots

/-!
Arrays of readings, stored in one of three ways, and their conversion to knots with a single
look-up of the unit.
-/

namespace WindSymbols

inductive Storage
  | double
  | single
  | integer
deriving DecidableEq

inductive Readings
  | doubles (entries : List Binary64)
  | singles (entries : List Single)
  | integers (entries : List Int64)

def Scalar.toInt64 (x : Scalar) : Except NumberFault Int64 := do
  let n ← match x with
    | .whole n => pure n
    | .real x => x.truncate
  if Int64.minValue.toInt ≤ n ∧ n ≤ Int64.maxValue.toInt then return .ofInt n
  else throw .tooLarge

namespace Readings

def store (storage : Storage) (speeds : List Scalar) : Except NumberFault Readings :=
  match storage with
  | .double => return .doubles (← speeds.mapM Scalar.toBinary64)
  | .single => return .singles ((← speeds.mapM Scalar.toBinary64).map Single.ofBinary64)
  | .integer => return .integers (← speeds.mapM Scalar.toInt64)

def scalars : Readings → List Scalar
  | doubles entries => entries.map .real
  | singles entries => entries.map fun x => .real x.value
  | integers entries => entries.map fun n => .whole n.toInt

def toBinary64s : Readings → List Binary64
  | doubles entries => entries
  | singles entries => entries.map Single.value
  | integers entries => entries.map fun n => .ofInt n.toInt

def inKnots [UnitLibrary] (readings : Readings) (unit : Option String) :
    Except SymbolError (List Binary64) := do
  let factor ← knotsFactor unit
  return readings.toBinary64s.map (· * factor)

end Readings

inductive SpeedFault
  | unit (error : SymbolError)
  | number (fault : NumberFault)

/-- A number in knots; the unit is looked up before the number is read. -/
def Scalar.inKnots [UnitLibrary] (speed : Scalar) (unit : Option String) :
    Except SpeedFault Binary64 := do
  let factor ← (knotsFactor unit).mapError .unit
  let x ← speed.toBinary64.mapError .number
  return x * factor

end WindSymbols
