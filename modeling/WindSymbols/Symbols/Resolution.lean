import WindSymbols.Locator.Reader
import WindSymbols.Symbols.Registry
import WindSymbols.Velocity.Knots

/-!
Resolving locators: read, find the set, convert to knots, classify, look up, and reflect where the
southern side is asked for. `resolve` tells the cause of a failure; `shape` tells it to the log
and goes on without a glyph, so one bad observation leaves the rest of a layer as it is.
-/

namespace WindSymbols

open Text

structure Resolved where
  locator : Locator
  knots : Binary64
  bucket : Bucket
  glyph : Glyph
  southern : Bool

def Resolved.elements? (r : Resolved) : Option Elements :=
  match r.bucket.kind, r.bucket.family with
  | .family, some family => Elements.ofFamily? family
  | _, _ => none

inductive LogLevel
  | debug
  | info
deriving DecidableEq

structure LogRecord where
  level : LogLevel
  message : String
deriving DecidableEq

structure Shape where
  glyph : Option Glyph
  log : List LogRecord

def Resolved.summary (r : Resolved) : String :=
  "Resolved " ++ quoted r.locator.text ++ " -> " ++ r.bucket.text ++
    " (" ++ r.knots.fixedText 2 ++ " kn)"

namespace Registry

def resolve [UnitLibrary] (r : Registry) (text : Option String) :
    Except SymbolFailure Resolved := do
  let locator ← (Locator.read text).mapError .symbol
  let set ← (r.get locator.symbolSet).mapError .symbol
  let knots ← (speedInKnots locator.speed locator.unit).mapError .symbol
  let bucket := set.classify knots
  if !bucket.isValid then throw (.symbol (.noSymbol (.real knots) set.profile.largest))
  let glyph ← set.lookup bucket
  let southern := locator.params.southern
  return ⟨locator, knots, bucket, if southern then glyph.reflected else glyph, southern⟩

/-- A malformed text is news only if it has the scheme of locators; without it, the text may be
the name of some other mark. -/
def failureRecord (error : SymbolError) (text : Option String) : LogRecord :=
  match error with
  | .malformed .. => ⟨if Locator.hasScheme text then .info else .debug, error.message⟩
  | _ => ⟨.info, error.message ++ " (locator " ++ quotedOrNone text ++ ")"⟩

def shape [UnitLibrary] (r : Registry) (text : Option String) : Except NumberFault Shape :=
  match r.resolve text with
  | .ok resolved => .ok ⟨some resolved.glyph, [⟨.debug, resolved.summary⟩]⟩
  | .error (.symbol error) => .ok ⟨none, [failureRecord error text]⟩
  | .error (.outOfRange fault) => .error fault

end Registry

inductive Value
  | text (s : String)
  | flag (b : Bool)
  | number (x : Scalar)

def Value.write : Value → String
  | text s => s
  | flag b => if b then "True" else "False"
  | number x => x.text

/-- A locator as it is, or an expression that computes one from a feature and may fail with a
message. -/
inductive SymbolSource (Feature : Type)
  | text (locator : String)
  | computed (expression : Feature → Except String (Option Value))

namespace SymbolSource

variable {Feature : Type}

def evaluate (s : SymbolSource Feature) (feature : Feature) : Option String × List LogRecord :=
  match s with
  | text locator => (some locator, [])
  | computed expression =>
    match expression feature with
    | .ok value => (value.map Value.write, [])
    | .error message => (none, [⟨.info, "Symbol expression failed for feature: " ++ message⟩])

end SymbolSource

def noSource : String := "Provided null symbol to the WindBarbs factory"

def noFeature : String := "Provided null feature to the WindBarbs factory"

def noText : String := "Unable to evaluate symbol provided to the WindBarbs factory"

def Registry.shapeOf [UnitLibrary] {Feature : Type} (r : Registry)
    (source : Option (SymbolSource Feature)) (feature : Option Feature) :
    Except NumberFault Shape :=
  match source, feature with
  | none, _ => .ok ⟨none, [⟨.debug, noSource⟩]⟩
  | some _, none => .ok ⟨none, [⟨.debug, noFeature⟩]⟩
  | some s, some f =>
    let (text, log) := s.evaluate f
    if text.getD "" = "" then .ok ⟨none, log ++ [⟨.debug, noText⟩]⟩
    else do
      let shape ← r.shape text
      return { shape with log := log ++ shape.log }

end WindSymbols
