import WindSymbols.Glyph.Build
import WindSymbols.SymbolError

/-!
Glyph tables. All glyphs of a profile are built at once: every family, then calm, then no data.
Looking a speed up never builds anything.
-/

namespace WindSymbols

abbrev GlyphTable := List (Bucket × Glyph)

namespace GlyphTable

def buckets (p : Profile) : List Bucket :=
  p.families.map (fun n => .ofFamily n) ++ [.calm, .noData]

def familyEntry (p : Profile) (family : Nat) : Except GlyphError (Bucket × Glyph) := do
  return (.ofFamily family, ← Glyph.ofFamily family p)

def build (p : Profile) : Except GlyphError GlyphTable := do
  p.checkLargest.mapError .outOfRange
  let families ← p.families.mapM (familyEntry p)
  let calm ← (Glyph.calm p).mapError .outOfRange
  let noData ← (Glyph.noData p).mapError .outOfRange
  return families ++ [(.calm, calm), (.noData, noData)]

def get? (table : GlyphTable) (b : Bucket) : Option Glyph := table.lookup b

end GlyphTable
end WindSymbols
