import Mathlib.Algebra.Order.Field.Power
import Mathlib.Algebra.Order.Field.Rat
import Mathlib.Tactic.FieldSimp
import Mathlib.Tactic.Positivity
import WindSymbols.Proofs.Number.Digits
import WindSymbols.Proofs.Number.Interval

/-! The value of a decimal. Its nearest double precision number depends on the value alone, however
it is split into a coefficient and an exponent (`toBinary64_eq`); the bounds beyond which no power
of ten is formed change nothing. -/

namespace WindSymbols

open Rounding

namespace Binary64

/-- The number nearest to a magnitude, with a sign that zero keeps too. -/
def ofMagnitude (negative : Bool) (q : ℚ) : Binary64 := ofRatio negative q.num.natAbs q.den

theorem ofUnits_congr (s : Bool) {a b c d : Nat} (hb : 0 < b) (hd : 0 < d) (h : a * d = c * b) :
    ofUnits s a b = ofUnits s c d := by
  have hgrid := toGrid_congr 53 hb hd h
  simp only [ofUnits, hgrid]

theorem ofRatio_congr (s : Bool) {a b c d : Nat} (hb : 0 < b) (hd : 0 < d) (h : a * d = c * b) :
    ofRatio s a b = ofRatio s c d := by
  refine ofUnits_congr s hb hd ?_
  rw [Nat.mul_right_comm, h, Nat.mul_right_comm]

theorem ofMagnitude_div (s : Bool) (a : Nat) {b : Nat} (hb : 0 < b) :
    ofMagnitude s ((a : ℚ) / b) = ofRatio s a b := by
  have hden := Rat.den_pos ((a : ℚ) / b)
  have hnum : 0 ≤ ((a : ℚ) / b).num := Rat.num_nonneg.mpr (by positivity)
  refine ofRatio_congr s hden hb ?_
  have hb' : (b : ℚ) ≠ 0 := by positivity
  have hden' : (((a : ℚ) / b).den : ℚ) ≠ 0 := by positivity
  have hsplit := Rat.num_div_den ((a : ℚ) / b)
  rw [div_eq_div_iff hden' hb'] at hsplit
  have hint : ((a : ℚ) / b).num * (b : Int) = a * ((a : ℚ) / b).den := by exact_mod_cast hsplit
  have habs : (((a : ℚ) / b).num.natAbs : Int) = ((a : ℚ) / b).num := Int.natAbs_of_nonneg hnum
  have : (((a : ℚ) / b).num.natAbs : Int) * b = a * ((a : ℚ) / b).den := by rw [habs, hint]
  exact_mod_cast this

theorem ofUnits_tiny (s : Bool) {num den : Nat} (h : 2 * num < den) :
    ofUnits s num den = finite s .zero := by
  have hdiv : num / den = 0 := Nat.div_eq_of_lt (by omega)
  have hmod : num % den = num := Nat.mod_eq_of_lt (by omega)
  have hspacing : spacing 53 0 = 1 := by decide
  refine ofUnits_eq_finite_iff.mpr ⟨rfl, ?_⟩
  simp [toGrid, hdiv, hspacing, nearest, hmod, h, Magnitude.zero]

theorem ofUnits_huge (s : Bool) {num den : Nat} (hd : 0 < den) (h : unitsLimit * den ≤ num) :
    ofUnits s num den = infinite s :=
  ofUnits_infinite s (le_toGrid (by decide) hd onGrid_pow h)

end Binary64

namespace Decimal

def value (d : Decimal) : ℚ := d.coefficient * 10 ^ d.exponent

theorem tenTo_cast (k : Nat) : ((tenTo k : Nat) : ℚ) = 10 ^ k := by
  unfold tenTo
  exact Nat.cast_pow 10 k

theorem value_mul_tenTo (coefficient k : Nat) (exponent : Int) :
    value ⟨coefficient * tenTo k, exponent⟩ = value ⟨coefficient, exponent + k⟩ := by
  simp only [value]
  rw [Nat.cast_mul, tenTo_cast, zpow_add₀ (by norm_num), zpow_natCast, mul_assoc,
    mul_comm (10 ^ exponent)]

theorem value_eq_div (d : Decimal) :
    d.value = ((d.coefficient * tenTo d.exponent.toNat : Nat) : ℚ) /
      (tenTo (-d.exponent).toNat : Nat) := by
  rw [value, Nat.cast_mul, tenTo_cast, tenTo_cast]
  rcases Int.le_total 0 d.exponent with h | h
  · obtain ⟨k, hk⟩ := Int.eq_ofNat_of_zero_le h
    simp [hk]
  · obtain ⟨k, hk⟩ := Int.eq_ofNat_of_zero_le (Int.neg_nonneg_of_nonpos h)
    have hexp : d.exponent = -(k : Int) := by omega
    simp [hexp, div_eq_mul_inv]

/-- A decimal of 10^310 or more is beyond the largest number. -/
theorem ofRatio_of_large (s : Bool) {d : Decimal} (hc : d.coefficient ≠ 0)
    (h : 310 ≤ d.leading) :
    Binary64.ofRatio s (d.coefficient * tenTo d.exponent.toNat) (tenTo (-d.exponent).toNat) =
      .infinite s := by
  refine Binary64.ofUnits_huge s (tenTo_pos _) ?_
  have hlow := tenTo_le_of_pos (Nat.pos_of_ne_zero hc)
  have hlen := length_digitsOf_pos d.coefficient
  simp only [leading] at h
  have hpow : tenTo 310 * tenTo (-d.exponent).toNat ≤ d.coefficient * tenTo d.exponent.toNat := by
    calc
      tenTo 310 * tenTo (-d.exponent).toNat = tenTo (310 + (-d.exponent).toNat) :=
        (tenTo_add ..).symm
      _ ≤ tenTo ((digitsOf d.coefficient).length - 1 + d.exponent.toNat) := tenTo_le (by omega)
      _ = tenTo ((digitsOf d.coefficient).length - 1) * tenTo d.exponent.toNat := tenTo_add ..
      _ ≤ d.coefficient * tenTo d.exponent.toNat := Nat.mul_le_mul_right _ hlow
  have hlimit : unitsLimit ≤ tenTo 310 * unitsPerOne := by decide +kernel
  calc
    unitsLimit * tenTo (-d.exponent).toNat
        ≤ tenTo 310 * unitsPerOne * tenTo (-d.exponent).toNat := Nat.mul_le_mul_right _ hlimit
    _ = tenTo 310 * tenTo (-d.exponent).toNat * unitsPerOne := Nat.mul_right_comm ..
    _ ≤ d.coefficient * tenTo d.exponent.toNat * unitsPerOne := Nat.mul_le_mul_right _ hpow

theorem ofRatio_of_small (s : Bool) {d : Decimal} (h : d.leading < -400) :
    Binary64.ofRatio s (d.coefficient * tenTo d.exponent.toNat) (tenTo (-d.exponent).toNat) =
      .finite s .zero := by
  refine Binary64.ofUnits_tiny s ?_
  have hhigh := lt_tenTo_length d.coefficient
  simp only [leading] at h
  have hexp : d.exponent.toNat = 0 := by omega
  have hhalf : 2 * unitsPerOne ≤ tenTo 400 := by decide +kernel
  have hpow : tenTo (digitsOf d.coefficient).length * tenTo 400 ≤ tenTo (-d.exponent).toNat := by
    rw [← tenTo_add]
    exact tenTo_le (by omega)
  have hone : tenTo 0 = 1 := rfl
  rw [hexp]
  calc
    2 * (d.coefficient * tenTo 0 * unitsPerOne) = d.coefficient * (2 * unitsPerOne) := by
      rw [hone, Nat.mul_one, Nat.mul_left_comm]
    _ ≤ d.coefficient * tenTo 400 := Nat.mul_le_mul_left _ hhalf
    _ < tenTo (digitsOf d.coefficient).length * tenTo 400 :=
      Nat.mul_lt_mul_of_pos_right hhigh (tenTo_pos _)
    _ ≤ tenTo (-d.exponent).toNat := hpow

theorem toBinary64_eq (s : Bool) (d : Decimal) : d.toBinary64 s = .ofMagnitude s d.value := by
  rw [value_eq_div, Binary64.ofMagnitude_div s _ (tenTo_pos _)]
  unfold toBinary64
  split
  · rename_i hzero
    rw [hzero, Nat.zero_mul, Binary64.ofRatio, Nat.zero_mul, Binary64.ofUnits_zero s (tenTo_pos _)]
  split
  · exact (ofRatio_of_large s ‹_› ‹_›).symm
  split
  · exact (ofRatio_of_small s ‹_›).symm
  · simp only [Scaled.ofQuotient, Nat.one_mul]

theorem toBinary64_congr {d e : Decimal} (h : d.value = e.value) (s : Bool) :
    d.toBinary64 s = e.toBinary64 s := by
  rw [toBinary64_eq, toBinary64_eq, h]

end Decimal
end WindSymbols
