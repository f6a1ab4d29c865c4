/-!
Sets of characters given as ranges of code points.
-/

namespace WindSymbols.Text

/-- First and last code point of each range. -/
abbrev Ranges := List (Nat × Nat)

def Ranges.contains (ranges : Ranges) (c : Char) : Bool :=
  ranges.any fun r => r.1 ≤ c.toNat && c.toNat ≤ r.2

end WindSymbols.Text
