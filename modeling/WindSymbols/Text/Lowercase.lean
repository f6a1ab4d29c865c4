import WindSymbols.Text.CaseContext
import WindSymbols.Text.LowerTable

/-!
Lower-case text. A capital sigma that ends a word becomes the final sigma, and a dotted capital I
becomes two characters; every other letter is changed on its own.
-/

namespace WindSymbols.Text

def lowerChar (c : Char) : Char :=
  match lowerRanges.find? (·.contains c) with
  | some r => .ofNat (c.toNat + r.shift).toNat
  | none => c

/-- The lower-case form of a character between the text before it, read backwards, and after it. -/
def lowerBetween (before : List Char) (c : Char) (after : List Char) : List Char :=
  if c = 'Σ' then [if startsCased before && !startsCased after then 'ς' else 'σ']
  else if c = 'İ' then ['i', '\u0307']
  else [lowerChar c]

def lowerAfter (before : List Char) : List Char → List Char
  | [] => []
  | c :: rest => lowerBetween before c rest ++ lowerAfter (c :: before) rest

def lower (cs : List Char) : List Char := lowerAfter [] cs

end WindSymbols.Text
