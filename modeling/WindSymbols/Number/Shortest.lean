import WindSymbols.Number.Decimal

/-!
The shortest decimal that reads back as a given double precision number. For each count of digits
in turn the two decimals around the exact value are read back; the first count with a hit wins,
and of two hits the nearer.
-/

namespace WindSymbols.Shortest

def readsBack (units : Nat) (d : Decimal) : Bool :=
  match d.toBinary64 false with
  | .finite _ m => m.units == units
  | _ => false

/-- The decimal of `count` digits that reads back, if the two around the value offer one. -/
def withDigits? (units count : Nat) : Option Decimal :=
  let last := leadingPower units unitsPerOne - (count - 1 : Nat)
  let s := Scaled.ofQuotient units unitsPerOne (-last)
  let below : Decimal := ⟨s.floor, last⟩
  let above : Decimal := ⟨s.floor + 1, last⟩
  let closest : Decimal := ⟨s.nearest, last⟩
  match readsBack units below, readsBack units above with
  | true, true => some closest
  | true, false => some below
  | false, true => some above
  | false, false => none

def exact (units : Nat) : Decimal := ⟨units * Nat.pow 5 1074, -1074⟩

def digits (units : Nat) : Decimal :=
  (((List.range 17).findSome? fun n => withDigits? units (n + 1)).getD (exact units)).trimmed

end WindSymbols.Shortest
