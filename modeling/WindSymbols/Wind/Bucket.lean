import WindSymbols.Number.Layout

/-!
Buckets of wind speed. Below three knots the wind is calm; from there on each family of five knots
takes the speeds that round to it, up to the largest family a symbol set can draw. NaN means that
there is no data, and the infinities have no symbol.
-/

namespace WindSymbols

inductive BucketKind
  | calm
  | noData
  | family
  | invalid
deriving DecidableEq

def BucketKind.label : BucketKind → String
  | calm => "calm"
  | noData => "nodata"
  | family => "family"
  | invalid => "invalid"

def BucketKind.title : BucketKind → String
  | calm => "CALM"
  | noData => "NO_DATA"
  | family => "FAMILY"
  | invalid => "INVALID"

/-- A kind with its speed in knots, which only families need. -/
structure BucketOf (Family : Type) where
  kind : BucketKind
  family : Option Family
deriving DecidableEq

abbrev Bucket := BucketOf Int

def BucketOf.whole? (b : BucketOf Scalar) : Option Bucket :=
  match b.family with
  | none => some ⟨b.kind, none⟩
  | some family => family.whole?.map fun n => ⟨b.kind, some n⟩

namespace Bucket

def calm : Bucket := ⟨.calm, none⟩

def noData : Bucket := ⟨.noData, none⟩

def invalid : Bucket := ⟨.invalid, none⟩

def ofFamily (family : Int) : Bucket := ⟨.family, some family⟩

def isValid (b : Bucket) : Bool := b.kind ≠ .invalid

def familyText (b : Bucket) : String := (b.family.map integerText).getD "None"

def name (b : Bucket) : String := if b.kind = .family then b.familyText else b.kind.label

def text (b : Bucket) : String :=
  if b.kind = .family then "Family(" ++ b.familyText ++ ")" else b.kind.title

end Bucket

/-- Speeds below this many knots are calm. -/
def calmBelow : Binary64 := 3

def familyOf? (knots : Binary64) : Option Int :=
  ((knots - calmBelow) / 5 + 1).floor?.map (5 * ·)

def classify (knots : Binary64) (largest : Scalar) : Bucket :=
  if knots.isNaN then .noData
  else if knots.isInfinite then .invalid
  else if knots < calmBelow then .calm
  else
    match familyOf? knots with
    | some family => if largest.lt (.whole family) then .invalid else .ofFamily family
    | none => .invalid

end WindSymbols
