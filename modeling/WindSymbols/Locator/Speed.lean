import WindSymbols.Number.Decimal
import WindSymbols.Text.Blank

/-!
Speed literals: decimal digits with an optional sign, point and exponent, or one of the words NaN
and Infinity. The value is the double precision number nearest to the literal.
-/

namespace WindSymbols.Speed

open Text

def splitSign : List Char → Bool × List Char
  | '-' :: rest => (true, rest)
  | '+' :: rest => (false, rest)
  | cs => (false, cs)

def leadingDigits (cs : List Char) : List Char := cs.takeWhile Char.isDigit

def afterDigits (cs : List Char) : List Char := cs.dropWhile Char.isDigit

def readExponent : List Char → Option Int
  | [] => some 0
  | c :: rest =>
    let (negative, ds) := splitSign rest
    if (c = 'e' ∨ c = 'E') ∧ ds ≠ [] ∧ afterDigits ds = [] then
      some (if negative then -(valueOfDigits ds : Int) else valueOfDigits ds)
    else none

def splitFraction : List Char → List Char × List Char
  | '.' :: rest => (leadingDigits rest, afterDigits rest)
  | cs => ([], cs)

def readDecimal (cs : List Char) : Option Decimal :=
  let whole := leadingDigits cs
  let (fraction, rest) := splitFraction (afterDigits cs)
  if whole = [] ∧ fraction = [] then none
  else
    (readExponent rest).map fun exponent =>
      ⟨valueOfDigits (whole ++ fraction), exponent - fraction.length⟩

def infinity : List Char := "Infinity".toList

def notANumber : List Char := "NaN".toList

def read (cs : List Char) : Option Binary64 :=
  let t := trim cs
  if t = notANumber then some .nan
  else
    let (negative, unsigned) := splitSign t
    if unsigned = infinity then some (.infinite negative)
    else (readDecimal unsigned).map (·.toBinary64 negative)

end WindSymbols.Speed
