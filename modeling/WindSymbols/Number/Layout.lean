import WindSymbols.Number.Scalar
import WindSymbols.Number.Shortest

/-!
How numbers are written. A style says which powers of ten are written in place, how many digits
an exponent has, and whether a whole number keeps a point.
-/

namespace WindSymbols

open Rounding

namespace Layout

def fixed (coefficient places : Nat) : List Char :=
  let ds := digitsOf coefficient
  let padded := List.replicate (places + 1 - ds.length) '0' ++ ds
  if places = 0 then padded
  else
    let cut := padded.length - places
    padded.take cut ++ '.' :: padded.drop cut

/-- Zeros at the end of a fraction go, and with the last of them the point. -/
def trimFraction (cs : List Char) : List Char :=
  if cs.contains '.' then
    let kept := (cs.reverse.dropWhile (· == '0'))
    (if kept.head? = some '.' then kept.tail else kept).reverse
  else cs

def integer (n : Int) : List Char :=
  if n < 0 then '-' :: digitsOf n.natAbs else digitsOf n.natAbs

def exponent (width : Nat) (power : Int) : List Char :=
  let ds := digitsOf power.natAbs
  'e' :: (if power < 0 then '-' else '+') :: List.replicate (width - ds.length) '0' ++ ds

def sign (negative : Bool) : List Char := if negative then ['-'] else []

end Layout

structure NumberStyle where
  exponentFrom : Int
  exponentBelow : Int
  exponentWidth : Nat
  keepsPoint : Bool

namespace NumberStyle

/-- Fewest digits that read back, in place from 10^-4 up to 10^16. -/
def plain : NumberStyle := ⟨16, -4, 2, true⟩

/-- Six digits at most, in place from 10^-4 up to 10^6. -/
def brief : NumberStyle := ⟨6, -4, 2, false⟩

def write (style : NumberStyle) (d : Decimal) : List Char :=
  if d.leading < style.exponentBelow ∨ style.exponentFrom ≤ d.leading then
    Layout.fixed d.coefficient ((digitsOf d.coefficient).length - 1) ++
      Layout.exponent style.exponentWidth d.leading
  else if d.exponent < 0 then
    Layout.fixed d.coefficient (-d.exponent).toNat
  else
    let whole := d.coefficient * tenTo d.exponent.toNat
    if style.keepsPoint then Layout.fixed (whole * 10) 1 else digitsOf whole

end NumberStyle

namespace Binary64

def textWith (magnitude : Magnitude → List Char) : Binary64 → List Char
  | nan => ['n', 'a', 'n']
  | infinite s => Layout.sign s ++ ['i', 'n', 'f']
  | finite s m => Layout.sign s ++ magnitude m

def textChars : Binary64 → List Char :=
  textWith fun m => NumberStyle.plain.write (Shortest.digits m.units)

def text (x : Binary64) : String := .ofList x.textChars

def fixedText (places : Nat) (x : Binary64) : String :=
  .ofList (x.textWith fun m => Layout.fixed (nearest (m.units * tenTo places) unitsPerOne) places)

def briefText (x : Binary64) : String :=
  .ofList (x.textWith fun m =>
    NumberStyle.brief.write (Decimal.ofQuotient 6 m.units unitsPerOne).trimmed)

end Binary64

def integerText (n : Int) : String := .ofList (Layout.integer n)

def Scalar.text : Scalar → String
  | .whole n => integerText n
  | .real x => x.text

end WindSymbols
