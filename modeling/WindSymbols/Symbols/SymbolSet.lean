import WindSymbols.Symbols.Table

/-!
Symbol sets: a name, a profile, and the table of all its glyphs.
-/

namespace WindSymbols

structure SymbolSet where
  name : String
  profile : Profile
  table : GlyphTable
  table_eq : GlyphTable.build profile = .ok table

inductive SymbolFailure
  | symbol (error : SymbolError)
  | outOfRange (fault : NumberFault)
deriving DecidableEq

namespace SymbolSet

def build (name : String) (p : Profile) : Except GlyphError SymbolSet :=
  match h : GlyphTable.build p with
  | .ok table => .ok ⟨name, p, table, h⟩
  | .error e => .error e

def classify (s : SymbolSet) (knots : Binary64) : Bucket :=
  WindSymbols.classify knots (.whole s.profile.largest)

def reportedKnots (b : Bucket) : Except NumberFault Binary64 :=
  match b.family with
  | some family => (Scalar.whole family).toBinary64
  | none => .ok .nan

def lookup (s : SymbolSet) (b : Bucket) : Except SymbolFailure Glyph :=
  match s.table.get? b with
  | some glyph => .ok glyph
  | none => do
    let knots ← (reportedKnots b).mapError .outOfRange
    throw (.symbol (.noSymbol (.real knots) s.profile.largest))

/-- The glyph of a bucket; families are compared by their values, whole or not. -/
def glyph? (s : SymbolSet) (b : BucketOf Scalar) : Option Glyph := b.whole?.bind s.table.get?

def holds (s : SymbolSet) (b : BucketOf Scalar) : Bool := (s.glyph? b).isSome

def lookupAny (s : SymbolSet) (b : BucketOf Scalar) : Except SymbolFailure Glyph :=
  match s.glyph? b with
  | some glyph => .ok glyph
  | none => do
    let knots ← ((b.family.getD (.real .nan)).toBinary64).mapError .outOfRange
    throw (.symbol (.noSymbol (.real knots) s.profile.largest))

def bucketFor (s : SymbolSet) (knots : Scalar) : Except NumberFault Bucket := do
  return s.classify (← knots.toBinary64)

def glyphFor (s : SymbolSet) (knots : Scalar) : Except SymbolFailure Glyph := do
  let b ← (s.bucketFor knots).mapError .outOfRange
  if b.isValid then s.lookup b
  else throw (.symbol (.noSymbol knots s.profile.largest))

end SymbolSet
end WindSymbols
