import WindSymbols.Number.Scalar
import WindSymbols.SymbolError
import WindSymbols.Text.Name
import WindSymbols.Velocity.Measure

/-!
Speeds in knots. The units of weather reports are found in a table, in any case; other units are
expressions. Either way a speed becomes knots by a single product.
-/

namespace WindSymbols

open Text

/-- Knots per unit of speed. -/
structure ReportUnit where
  name : String
  knots : Binary64

/-- The statute mile of reports has six digits. -/
def reportUnits : List ReportUnit :=
  [⟨"kn", 1⟩, ⟨"kts", 1⟩, ⟨"knots", 1⟩, ⟨"m/s", 3600 / 1852⟩, ⟨"km/h", 1000 / 1852⟩,
    ⟨"mph", .ofRatio false 868976 1000000⟩]

def reportUnit? (unit : String) : Option ReportUnit :=
  reportUnits.find? (·.name = nameKey unit)

/-- What the unit library says of a unit that it refuses. Its words go into the error and from
there into logs and tables; everything else is the same whatever they are. -/
class UnitLibrary where
  refusal : List Char → String

/-- The library of a program that leaves the words out. -/
instance (priority := low) UnitLibrary.silent : UnitLibrary := ⟨fun _ => ""⟩

def expressionFactor [UnitLibrary] (unit : List Char) : Except UnitFault Binary64 :=
  match Velocity.measure? unit with
  | none => .error (.unknown (UnitLibrary.refusal unit))
  | some factor =>
    if factor.isFinite && (0 : Binary64).lt factor then .ok factor else .error .notVelocity

/-- Knots per unit. A unit that is not in the table is refused under its trimmed name. -/
def knotsFactor [UnitLibrary] (unit : Option String) : Except SymbolError Binary64 :=
  match unit with
  | none => .error (.unsupportedUnit none .notGiven)
  | some name =>
    let token := trim name.toList
    if token = [] then .error (.unsupportedUnit unit .notGiven)
    else
      match reportUnit? name with
      | some known => .ok known.knots
      | none => (expressionFactor token).mapError (.unsupportedUnit (some (.ofList token)))

def speedInKnots [UnitLibrary] (speed : Binary64) (unit : String) :
    Except SymbolError Binary64 := do
  let factor ← knotsFactor (some unit)
  return speed * factor

end WindSymbols
