import WindSymbols.Locator.Params
import WindSymbols.Number.Scalar

/-!
Locators: a symbol set, a speed with its unit, and parameters.
-/

namespace WindSymbols

open Text

structure LocatorOf (Speed : Type) where
  /-- The set's name in lower case. -/
  symbolSet : String
  speed : Speed
  unit : String
  params : Params
  text : String
deriving DecidableEq

abbrev Locator := LocatorOf Binary64

namespace LocatorOf

variable {Speed Other : Type}

def mapSpeed (f : Speed → Other) (l : LocatorOf Speed) : LocatorOf Other :=
  ⟨l.symbolSet, f l.speed, l.unit, l.params, l.text⟩

def param (l : LocatorOf Speed) (key : String) (default : Option String) : Option String :=
  (l.params.get? (lowerText key)).or default

/-- Equality of all parts. NaN is a different speed each time, and parameters have no order. -/
def same (a b : LocatorOf Scalar) : Bool :=
  a.symbolSet = b.symbolSet && a.speed.same b.speed && a.unit = b.unit &&
    a.params.same b.params && a.text = b.text

end LocatorOf
end WindSymbols
