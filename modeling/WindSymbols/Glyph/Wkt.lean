import WindSymbols.Glyph.Basic
import WindSymbols.Number.Layout

/-!
Well-known text of glyphs. A coordinate is rounded on its shortest decimal digits, a half going to
the even digit, and zeros at the end of its fraction are left out.
-/

namespace WindSymbols.Wkt

open Rounding

/-- The decimals kept; a request that is negative or above the limit means the limit. -/
def decimalsFor (precision : Int) : Nat :=
  if precision < 0 ∨ 16 < precision then 16 else precision.toNat

def rounded (d : Decimal) (decimals : Nat) : Nat × Nat :=
  let places := (-d.exponent).toNat
  if places ≤ decimals then (d.coefficient * tenTo d.exponent.toNat, places)
  else (nearest d.coefficient (tenTo (places - decimals)), decimals)

def fixed (d : Decimal) (decimals : Nat) : List Char :=
  let (coefficient, places) := rounded d decimals
  Layout.trimFraction (Layout.fixed coefficient places)

/-- A mantissa with one digit before the point. One that rounds up to ten stays ten. -/
def scientific (d : Decimal) (decimals : Nat) : List Char :=
  let mantissa : Decimal := ⟨d.coefficient, -(((digitsOf d.coefficient).length - 1 : Nat) : Int)⟩
  fixed mantissa decimals ++ Layout.exponent 1 d.leading

/-- A positive number. Below one, the first digit other than zero is always kept. -/
def decimal (d : Decimal) (decimals : Nat) : List Char :=
  if -4 ≤ d.leading ∧ d.leading < 17 then fixed d (max decimals (-d.leading).toNat)
  else scientific d decimals

def number (decimals : Nat) : Binary64 → List Char
  | .nan => "NaN".toList
  | .infinite s => Layout.sign s ++ "Infinity".toList
  | .finite s m =>
    if m.units = 0 then ['0']
    else Layout.sign s ++ decimal (Shortest.digits m.units) decimals

def point (decimals : Nat) (p : Point) : String :=
  .ofList (number decimals p.x ++ ' ' :: number decimals p.y)

def path (decimals : Nat) (p : Path) : String :=
  "(" ++ ", ".intercalate (p.map (point decimals)) ++ ")"

end WindSymbols.Wkt

namespace WindSymbols

def Glyph.wkt (g : Glyph) (precision : Int) : String :=
  let decimals := Wkt.decimalsFor precision
  if g.isEmpty then "MULTILINESTRING EMPTY"
  else "MULTILINESTRING (" ++ ", ".intercalate (List.map (Wkt.path decimals) g) ++ ")"

end WindSymbols
