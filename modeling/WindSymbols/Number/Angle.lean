import WindSymbols.Number.Binary64

/-!
Angles: sines and cosines, and the angle of a direction. The series are summed on integers counting
2^-320, so the sum is far finer than the rounding that follows it. An angle beyond a full turn is
brought back with a half turn known to 1400 binary places.
-/

namespace WindSymbols.Angle

/-- Units of the sums in one. -/
def one : Int := twoTo 320

def alternating (square : Int) : Nat → Int → Int → Int
  | 0, _, _ => 0
  | terms + 1, k, term =>
    term - alternating square terms (k + 2) (term * square / one / ((k + 1) * (k + 2)))

def ofSum (n : Int) : Binary64 := .ofRatio (decide (n < 0)) n.natAbs one.natAbs

def turn : Binary64 := .ofRatio false 884279719003555 (twoTo 47)

/-! A half turn, as sixteen times the angle of slope 1/5 less four times that of slope 1/239. -/

/-- Units of the half turn in one. -/
def fine : Nat := twoTo 1400

def inverseTerms (square : Nat) : Nat → Nat → Int → Int
  | 0, _, _ => 0
  | terms + 1, k, power => power / k - inverseTerms square terms (k + 2) (power / square)

def slopeAngle (n : Nat) : Int := inverseTerms (n * n) 310 1 ((fine : Int) / n)

def fineHalfTurn : Int := 16 * slopeAngle 5 - 4 * slopeAngle 239

def halfTurn : Int := fineHalfTurn / twoTo 1080

def toSum : Binary64 → Int
  | .finite s m =>
    let exact := Binary64.signed s m.units
    if turn.lt (.finite false m) then exact * twoTo 326 % (2 * fineHalfTurn) / twoTo 1080
    else exact * one / unitsPerOne
  | _ => 0

def cosine (x : Binary64) : Binary64 :=
  let a := toSum x
  if x.isFinite then ofSum (alternating (a * a / one) 60 0 one) else .nan

/-- Angles below this one are equal to their sines but for rounding. -/
def smallest : Binary64 := .ofRatio false 1 (twoTo 27)

def sine (x : Binary64) : Binary64 :=
  let a := toSum x
  if (-smallest).lt x && x.lt smallest then x
  else if x.isFinite then ofSum (alternating (a * a / one) 60 1 a)
  else .nan

def part (count i : Nat) : Binary64 := (i : Binary64) * (turn / (count : Binary64))

/-! The angle of a direction. -/

def slopeTerms (square : Int) : Nat → Int → Int → Int
  | 0, _, _ => 0
  | terms + 1, k, power => power / k - slopeTerms square terms (k + 2) (power * square / one)

def halved (slope : Int) : Int :=
  slope * one / (one + (Nat.sqrt (one * one + slope * slope).toNat : Int))

def ofSlope (slope : Int) : Int :=
  let part := halved (halved (halved slope))
  8 * slopeTerms (part * part / one) 60 1 part

def ofQuarter (x y : Nat) : Int :=
  if y ≤ x then ofSlope (y * one / x) else halfTurn / 2 - ofSlope (x * one / y)

/-- The angle of a finite direction, between minus and plus half a turn. The direction of zero is
that of the signs of its parts. -/
def ofFinite (left : Bool) (x : Nat) (down : Bool) (y : Nat) : Binary64 :=
  let angle := if x = 0 ∧ y = 0 then 0 else ofQuarter x y
  if !left && y * twoTo 30 < x || !left && y = 0 then .ofUnits down (y * unitsPerOne) (max x 1)
  else .ofRatio down (if left then halfTurn - angle else angle).natAbs one.natAbs

/-- Parts that are infinite leave only a multiple of an eighth of a turn. -/
def ofDirection (x y : Binary64) : Binary64 :=
  match x, y with
  | .nan, _ => .nan
  | _, .nan => .nan
  | .finite s a, .finite t b => ofFinite s a.units t b.units
  | .infinite s, .infinite t => ofFinite s 1 t 1
  | .infinite s, .finite t _ => ofFinite s 1 t 0
  | .finite s _, .infinite t => ofFinite s 0 t 1

end WindSymbols.Angle
