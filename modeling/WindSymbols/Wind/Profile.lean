import WindSymbols.Number.Layout

/-!
Geometry profiles. A profile gives the lengths of a glyph's parts, all of them positive, and the
largest family that a symbol set draws. A short barb is half a long one.
-/

namespace WindSymbols

inductive Part
  | shaft
  | pennantBase
  | spacing
  | longBarb
  | calmCircle
deriving DecidableEq

def Part.label : Part → String
  | shaft => "vector_length"
  | pennantBase => "base_pennant_length"
  | spacing => "elements_spacing"
  | longBarb => "long_barb_length"
  | calmCircle => "zero_wind_radius"

def Part.all : List Part := [.shaft, .pennantBase, .spacing, .longBarb, .calmCircle]

/-- Lengths and a largest family as they are asked for, usable or not. -/
structure Dimensions where
  shaft : Scalar := .whole 40
  pennantBase : Scalar := .whole 5
  spacing : Scalar := .whole 5
  longBarb : Scalar := .whole 20
  calmCircle : Scalar := .whole 10
  largest : Scalar := .whole 100
deriving DecidableEq

def Dimensions.length (d : Dimensions) : Part → Scalar
  | .shaft => d.shaft
  | .pennantBase => d.pennantBase
  | .spacing => d.spacing
  | .longBarb => d.longBarb
  | .calmCircle => d.calmCircle

/-- A largest family that is a natural multiple of five, as a whole number or a real one. -/
def Dimensions.largest? (d : Dimensions) : Option Nat :=
  match d.largest with
  | .whole (.ofNat n) => if n % 5 = 0 then some n else none
  | .real (.finite s m) =>
    let n := m.units / unitsPerOne
    if m.units = 5 * (n / 5) * unitsPerOne ∧ (s = true → n = 0) then some n else none
  | _ => none

inductive ProfileError
  | notPositive (part : Part) (value : Scalar)
  | badLargest (value : Scalar)
  | outOfRange (fault : NumberFault)
deriving DecidableEq

structure Profile where
  dimensions : Dimensions
  largest : Nat
  shortBarb : Binary64
  positive : ∀ part, (dimensions.length part).isPositive = true
  largest_eq : dimensions.largest? = some largest
  shortBarb_eq : dimensions.longBarb.half = .ok shortBarb

namespace Profile

def firstFault? (d : Dimensions) : Option Part :=
  Part.all.find? fun part => !(d.length part).isPositive

theorem isPositive_of_firstFault? {d : Dimensions} (h : firstFault? d = none) (part : Part) :
    (d.length part).isPositive = true := by
  have hmem : part ∈ Part.all := by cases part <;> decide
  simpa using List.find?_eq_none.mp h part hmem

def ofDimensions (d : Dimensions) : Except ProfileError Profile :=
  match hp : firstFault? d with
  | some part => .error (.notPositive part (d.length part))
  | none =>
    match hl : d.largest? with
    | none => .error (.badLargest d.largest)
    | some largest =>
      match hs : d.longBarb.half with
      | .error fault => .error (.outOfRange fault)
      | .ok shortBarb => .ok ⟨d, largest, shortBarb, isPositive_of_firstFault? hp, hl, hs⟩

theorem half_twenty : (Scalar.whole 20).half = .ok 10 := by
  have h : Binary64.ofRatio false 20 2 = 10 := by decide +kernel
  have hf : (10 : Binary64).isFinite = true := by decide +kernel
  simp [Scalar.half, Binary64.orTooLarge, h, hf]

def standard : Profile where
  dimensions := {}
  largest := 100
  shortBarb := 10
  positive part := by cases part <;> decide +kernel
  largest_eq := by decide
  shortBarb_eq := half_twenty

def families (p : Profile) : List Nat := (List.range (p.largest / 5 + 1)).map (5 * ·)

/-- Families are listed up to a whole number only; with a real one a profile still has lengths. -/
def checkLargest (p : Profile) : Except NumberFault Unit :=
  if p.dimensions.largest.isWhole then .ok () else .error .notWhole

def familyCount (p : Profile) : Except NumberFault Nat := do
  p.checkLargest
  if p.largest / 5 + 1 < twoTo 63 then return p.largest / 5 + 1 else throw .tooLarge

end Profile

namespace ProfileError

def message? : ProfileError → Option String
  | notPositive part value =>
    some ("Invalid " ++ part.label ++ ": " ++ value.text ++ " (must be positive)")
  | badLargest value =>
    some ("Invalid max_family: " ++ value.text ++ " (must be a non-negative multiple of 5)")
  | outOfRange fault => fault.message?

end ProfileError
end WindSymbols
