import WindSymbols.Number.Layout
import WindSymbols.Text.Quoted

/-!
Why a locator has no symbol. None of these stops a map: the symbol is left out and the cause is
told.
-/

namespace WindSymbols

open Text

/-- The pieces of a locator, in the order in which a reader misses them. -/
inductive LocatorPart
  | scheme
  | parentheses
  | symbolSet
  | brackets
  | speed
deriving DecidableEq

def LocatorPart.missing : LocatorPart → String
  | scheme => "missing scheme"
  | parentheses => "missing parentheses group"
  | symbolSet => "missing symbol set"
  | brackets => "missing bracket group"
  | speed => "unparsable speed"

/-- What is wrong with a unit. A unit that the unit library refuses comes with the library's own
words. -/
inductive UnitFault
  | notGiven
  | unknown (cause : String)
  | notVelocity
deriving DecidableEq

def UnitFault.detail : UnitFault → String
  | notGiven => "no unit given"
  | unknown cause => cause
  | notVelocity => "not a linear velocity unit"

inductive SymbolError
  | malformed (part : LocatorPart) (text : Option String)
  | unknownSet (name : String)
  | unsupportedUnit (unit : Option String) (fault : UnitFault)
  | noSymbol (knots : Scalar) (largest : Nat)
deriving DecidableEq

namespace SymbolError

def malformedMessage (reason : String) (text : Option String) : String :=
  "Unable to parse locator (" ++ reason ++ "): " ++ quotedOrNone text

def unitHeadline : String := "The supplied unit isn't currently supported"

def unitMessage (unit : Option String) (detail : String) : String :=
  unitHeadline ++ ": " ++ quotedOrNone unit ++
    (if detail = "" then "" else " (" ++ detail ++ ")")

def speedMessage (knots largest : Option Scalar) : String :=
  "Unable to find windbarb symbol for speed " ++ (knots.map Scalar.text).getD "None" ++ " kn" ++
    match largest with
    | some n => " (max " ++ n.text ++ " kn)"
    | none => ""

def setMessage (name : Option String) : String :=
  "Unknown windbarb symbol set: " ++ quotedOrNone name

def message : SymbolError → String
  | malformed part text => malformedMessage part.missing text
  | unknownSet name => setMessage (some name)
  | unsupportedUnit unit fault => unitMessage unit fault.detail
  | noSymbol knots largest => speedMessage (some knots) (some (.whole largest))

end SymbolError
end WindSymbols
