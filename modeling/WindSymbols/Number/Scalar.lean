import WindSymbols.Number.Binary64

/-!
Lengths and speeds as they are given: whole numbers of any size, or double precision numbers.
Whole numbers stay exact among themselves; where the two kinds meet, the whole one is rounded to
double precision first, which fails if it is too large.
-/

namespace WindSymbols

inductive NumberFault
  | tooLarge
  | notANumber
  | notWhole
  /-- There is no such real number, as with a division by zero. -/
  | undefined
deriving DecidableEq

def NumberFault.message? : NumberFault → Option String
  | notANumber => some "cannot convert float NaN to integer"
  | _ => none

namespace Binary64

def orTooLarge (x : Binary64) : Except NumberFault Binary64 :=
  if x.isFinite then .ok x else .error .tooLarge

def truncate : Binary64 → Except NumberFault Int
  | nan => .error .notANumber
  | infinite _ => .error .tooLarge
  | finite s m => .ok (signed s (m.units / unitsPerOne))

end Binary64

inductive Scalar
  | whole (n : Int)
  | real (x : Binary64)
deriving DecidableEq

namespace Scalar

def toBinary64 : Scalar → Except NumberFault Binary64
  | whole n => (Binary64.ofInt n).orTooLarge
  | real x => .ok x

def position? : Scalar → Option Position
  | whole n => some (.at (n * unitsPerOne))
  | real x => x.position?

def lt (a b : Scalar) : Bool :=
  match a.position?, b.position? with
  | some p, some q => p.lt q
  | _, _ => false

def same (a b : Scalar) : Bool :=
  match a.position?, b.position? with
  | some p, some q => p = q
  | _, _ => false

def isPositive (a : Scalar) : Bool := (whole 0).lt a

def isNegative (a : Scalar) : Bool := a.lt (whole 0)

def isWhole : Scalar → Bool
  | whole _ => true
  | real _ => false

def whole? : Scalar → Option Int
  | whole n => some n
  | real (.finite s m) =>
    if m.units % unitsPerOne = 0 then some (Binary64.signed s (m.units / unitsPerOne)) else none
  | real _ => none

def isZero (a : Scalar) : Bool := a.same (whole 0)

/-- An operation on whole numbers among themselves, and on real ones wherever one is real. -/
def combine (onWholes : Int → Int → Except NumberFault Scalar)
    (onReals : Binary64 → Binary64 → Except NumberFault Scalar) :
    Scalar → Scalar → Except NumberFault Scalar
  | whole m, whole n => onWholes m n
  | a, b => do
    let x ← a.toBinary64
    let y ← b.toBinary64
    onReals x y

def add : Scalar → Scalar → Except NumberFault Scalar :=
  combine (fun m n => .ok (whole (m + n))) (fun x y => .ok (real (x + y)))

def sub : Scalar → Scalar → Except NumberFault Scalar :=
  combine (fun m n => .ok (whole (m - n))) (fun x y => .ok (real (x - y)))

def mul : Scalar → Scalar → Except NumberFault Scalar :=
  combine (fun m n => .ok (whole (m * n))) (fun x y => .ok (real (x * y)))

def half : Scalar → Except NumberFault Binary64
  | whole n => (Binary64.ofRatio (decide (n < 0)) n.natAbs 2).orTooLarge
  | real x => .ok (x / 2)

end Scalar
end WindSymbols
