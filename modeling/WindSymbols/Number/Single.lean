import WindSymbols.Number.Binary64

/-!
Single precision numbers, as the double precision numbers with 24 binary digits in units of
2^-149. The main statement is `toSingle_toSingle`: narrowing has nothing left to do on its result.
-/

namespace WindSymbols

open Rounding

def singleUnit : Nat := twoTo 925

def singleLimit : Nat := twoTo 1202

namespace Binary64

/-- The nearest single precision number, infinite beyond the largest. -/
def toSingle : Binary64 → Binary64
  | finite s m =>
    let units := toGrid 24 m.units singleUnit * singleUnit
    if units < singleLimit then ofUnits s units 1 else infinite s
  | x => x

theorem ofUnits_one {units : Nat} (s : Bool) (h : units < unitsLimit) (hg : OnGrid 53 units) :
    ofUnits s units 1 = finite s ⟨units, hg, h⟩ := by
  have hu := toGrid_one hg
  simp [ofUnits, hu, h]

theorem onGrid_single {u : Nat} (hu : OnGrid 24 u) : OnGrid 53 (u * singleUnit) := by
  unfold singleUnit
  exact hu.shift (by omega : 24 ≤ 53) 925

theorem singleUnit_pos : 0 < singleUnit := by
  unfold singleUnit
  exact twoTo_pos 925

theorem singleLimit_le : singleLimit ≤ unitsLimit := by decide +kernel

theorem toSingle_finite (s : Bool) (m : Magnitude) :
    (finite s m).toSingle =
      if toGrid 24 m.units singleUnit * singleUnit < singleLimit then
        ofUnits s (toGrid 24 m.units singleUnit * singleUnit) 1
      else infinite s := by
  rw [toSingle]

theorem toSingle_toSingle (x : Binary64) : x.toSingle.toSingle = x.toSingle := by
  cases x with
  | nan => rfl
  | infinite _ => rfl
  | finite s m =>
    have hu : OnGrid 24 (toGrid 24 m.units singleUnit) := onGrid_toGrid (by omega) ..
    rw [toSingle_finite]
    by_cases h : toGrid 24 m.units singleUnit * singleUnit < singleLimit
    · rw [if_pos h, ofUnits_one s (Nat.lt_of_lt_of_le h singleLimit_le) (onGrid_single hu),
        toSingle_finite]
      simp only []
      rw [toGrid_mul hu singleUnit_pos, if_pos h,
        ofUnits_one s (Nat.lt_of_lt_of_le h singleLimit_le) (onGrid_single hu)]
    · rw [if_neg h, toSingle]
      simp

end Binary64

structure Single where
  value : Binary64
  single : value.toSingle = value

def Single.ofBinary64 (x : Binary64) : Single := ⟨x.toSingle, x.toSingle_toSingle⟩

end WindSymbols
