import WindSymbols.Proofs.Number.Gap
import WindSymbols.Proofs.Number.Shortest
import WindSymbols.Proofs.Number.Value
import Mathlib.Algebra.Order.Ring.Abs
import Mathlib.Tactic.Linarith
import Mathlib.Tactic.Ring

/-! The double precision number nearest to a value. Of two numbers that are as near it is the one
whose last digit is zero, and from halfway beyond the largest number on it is an infinity
(`IsNearest`). Rounding a magnitude finds it (`isNearest_ofMagnitude`), and there is one of either
sign (`IsNearest.unique`). -/

namespace WindSymbols

namespace Binary64

open Rounding

def IsEven : Binary64 → Prop
  | finite _ m => EvenOnGrid 53 m.units
  | _ => False

/-- Halfway from the largest number to the next one there would be. -/
def overflowFrom : ℚ := 2 ^ 1024 - 2 ^ 970

/-- The number nearest to a value; of two that are as near it is the even one. From halfway beyond
the largest number on it is an infinity. -/
structure IsNearest (x : Binary64) (r : ℚ) : Prop where
  ne_nan : x ≠ nan
  isInfinite_iff : x.isInfinite = true ↔ overflowFrom ≤ |r|
  abs_sub_le : x.isFinite = true → ∀ y : Binary64, y.isFinite = true →
    |x.toRat - r| ≤ |y.toRat - r|
  isEven : x.isFinite = true → ∀ y : Binary64, y.isFinite = true → y.toRat ≠ x.toRat →
    |y.toRat - r| = |x.toRat - r| → x.IsEven

def signedRat (negative : Bool) (q : ℚ) : ℚ := if negative then -q else q

theorem abs_signedRat (s : Bool) {q : ℚ} (h : 0 ≤ q) : |signedRat s q| = q := by
  cases s with
  | false => exact abs_of_nonneg h
  | true =>
    rw [signedRat, if_pos rfl, abs_neg]
    exact abs_of_nonneg h

theorem abs_signedRat_sub (s : Bool) (p q : ℚ) : |signedRat s p - signedRat s q| = |p - q| := by
  cases s with
  | false => rfl
  | true =>
    have h : signedRat true p - signedRat true q = q - p := by
      simp only [signedRat, if_true]
      ring
    rw [h, abs_sub_comm]

theorem signedRat_eq_neg_of_ne {s t : Bool} {q : ℚ} (h : signedRat t q ≠ signedRat s q) :
    signedRat t q = -signedRat s q := by
  cases s <;> cases t <;> simp_all [signedRat]

theorem toRat_zero (s : Bool) : (finite s .zero).toRat = 0 := by
  have hunits : Magnitude.zero.units = 0 := rfl
  rw [toRat_finite, hunits, signed_zero, Int.cast_zero, zero_div]

theorem toRat_eq_signedRat (s : Bool) (m : Magnitude) :
    (finite s m).toRat = signedRat s (m.units / unitsPerOne) := by
  rw [toRat_finite]
  cases s with
  | false => rfl
  | true =>
    rw [signed_true, signedRat, if_pos rfl]
    push_cast
    ring

theorem twoTo_cast (k : Nat) : ((twoTo k : Nat) : ℚ) = 2 ^ k := by
  unfold twoTo
  exact Nat.cast_pow 2 k

theorem units_div_nonneg (u : Nat) : (0 : ℚ) ≤ u / unitsPerOne :=
  div_nonneg (Nat.cast_nonneg _) unitsPerOne_cast_pos.le

theorem abs_units_sub {a b : Nat} (hb : 0 < b) (u : Nat) :
    |(u / unitsPerOne : ℚ) - a / b| = (gap (a * unitsPerOne) b u : ℚ) / (unitsPerOne * b) := by
  have hbq : (0 : ℚ) < b := Nat.cast_pos.mpr hb
  have hpos : (0 : ℚ) < unitsPerOne * b := mul_pos unitsPerOne_cast_pos hbq
  have hnum : (u * b - unitsPerOne * a : ℚ) = -((a * unitsPerOne : Nat) - u * b : ℤ) := by
    rw [Int.cast_sub, Int.cast_mul, Int.cast_natCast, Int.cast_natCast, Int.cast_natCast,
      Nat.cast_mul]
    ring
  rw [div_sub_div _ _ unitsPerOne_cast_pos.ne' hbq.ne', abs_div, abs_of_pos hpos, hnum, abs_neg,
    gap, Int.cast_abs]

theorem eq_zero_of_opposite {x r : ℚ} (h : |-x - r| = |x - r|) (hzero : |x - r| ≤ |r|) : x = 0 := by
  rcases abs_eq_abs.mp h with heq | heq
  · linarith
  · have hr : r = 0 := by linarith
    rw [hr, sub_zero, abs_zero] at hzero
    exact abs_eq_zero.mp (le_antisymm hzero (abs_nonneg x))

section Ratio

variable {a b : Nat} (hb : 0 < b)

include hb

theorem abs_units_sub_le_iff {u v : Nat} :
    |(u / unitsPerOne : ℚ) - a / b| ≤ |(v / unitsPerOne : ℚ) - a / b| ↔
      gap (a * unitsPerOne) b u ≤ gap (a * unitsPerOne) b v := by
  have hpos : (0 : ℚ) < unitsPerOne * b := mul_pos unitsPerOne_cast_pos (Nat.cast_pos.mpr hb)
  rw [abs_units_sub hb, abs_units_sub hb, div_le_div_iff_of_pos_right hpos, Int.cast_le]

omit hb in
theorem abs_units_sub_le_abs_sub (s t : Bool) (m : Magnitude) :
    |(m.units / unitsPerOne : ℚ) - a / b| ≤ |(finite t m).toRat - signedRat s (a / b)| := by
  have hq : (0 : ℚ) ≤ a / b := div_nonneg (Nat.cast_nonneg _) (Nat.cast_nonneg _)
  have h := abs_abs_sub_abs_le (finite t m).toRat (signedRat s (a / b))
  rwa [toRat_eq_signedRat, abs_signedRat t (units_div_nonneg _), abs_signedRat s hq,
    ← toRat_eq_signedRat] at h

theorem overflowFrom_le_iff :
    overflowFrom ≤ (a / b : ℚ) ↔ unitsLimit ≤ toGrid 53 (a * unitsPerOne) b := by
  have hbq : (0 : ℚ) < b := Nat.cast_pos.mpr hb
  have hunits : overflowFrom * unitsPerOne = (unitsLimit - twoTo 2044 : Nat) := by
    rw [unitsLimit, Nat.cast_sub (twoTo_le (by omega)), unitsPerOne, overflowFrom, twoTo_cast,
      twoTo_cast, twoTo_cast, sub_mul, ← pow_add, ← pow_add]
  rw [unitsLimit_le_toGrid_iff hb, ← mul_le_mul_iff_left₀ unitsPerOne_cast_pos, hunits,
    div_mul_eq_mul_div, le_div_iff₀ hbq]
  exact_mod_cast Iff.rfl

theorem not_overflow_of_finite {s : Bool} {m : Magnitude} (h : ofRatio s a b = finite s m) :
    ¬ overflowFrom ≤ (a / b : ℚ) := by
  have hlim := m.lt_limit
  rw [overflowFrom_le_iff hb, (ofUnits_eq_finite_iff.mp h).2]
  omega

theorem abs_sub_le_of_finite {s : Bool} {m : Magnitude} (h : ofRatio s a b = finite s m)
    (t : Bool) (n : Magnitude) :
    |(finite s m).toRat - signedRat s (a / b)| ≤ |(finite t n).toRat - signedRat s (a / b)| := by
  refine le_trans ?_ (abs_units_sub_le_abs_sub s t n)
  rw [toRat_eq_signedRat, abs_signedRat_sub, abs_units_sub_le_iff hb,
    ← (ofUnits_eq_finite_iff.mp h).2]
  exact gap_toGrid_le (by decide) hb n.onGrid

theorem isEven_of_finite {s : Bool} {m : Magnitude} (h : ofRatio s a b = finite s m)
    {t : Bool} {n : Magnitude} (hne : (finite t n).toRat ≠ (finite s m).toRat)
    (htie : |(finite t n).toRat - signedRat s (a / b)| =
      |(finite s m).toRat - signedRat s (a / b)|) : (finite s m).IsEven := by
  have hgrid := (ofUnits_eq_finite_iff.mp h).2
  by_cases hunits : n.units = m.units
  · -- then the other number is the opposite one, and both are zero
    exfalso
    have hopposite : (finite t n).toRat = -(finite s m).toRat := by
      rw [toRat_eq_signedRat, toRat_eq_signedRat, hunits] at hne ⊢
      exact signedRat_eq_neg_of_ne hne
    rw [hopposite] at hne htie
    have hzero := abs_sub_le_of_finite hb h false .zero
    rw [toRat_zero, zero_sub, abs_neg] at hzero
    have hx := eq_zero_of_opposite htie hzero
    rw [hx, neg_zero] at hne
    exact hne rfl
  · rw [IsEven, ← hgrid]
    refine even_toGrid (by decide) hb n.onGrid (hgrid ▸ hunits) (le_antisymm ?_ ?_)
    · have hle := abs_units_sub_le_abs_sub (a := a) (b := b) s t n
      rw [htie, toRat_eq_signedRat, abs_signedRat_sub, ← hgrid] at hle
      exact (abs_units_sub_le_iff hb).mp hle
    · exact gap_toGrid_le (by decide) hb n.onGrid

/-- A fraction is rounded to the number nearest to it. -/
theorem isNearest_ofRatio (s : Bool) : (ofRatio s a b).IsNearest (signedRat s (a / b)) := by
  have hq : (0 : ℚ) ≤ a / b := div_nonneg (Nat.cast_nonneg _) (Nat.cast_nonneg _)
  by_cases hlim : toGrid 53 (a * unitsPerOne) b < unitsLimit
  · obtain ⟨m, hm⟩ : ∃ m, ofRatio s a b = finite s m := ⟨_, ofUnits_finite s hlim⟩
    have hbelow := not_overflow_of_finite hb hm
    rw [hm]
    refine ⟨nofun, ?_, fun _ y hy => ?_, fun _ y hy => ?_⟩
    · rw [abs_signedRat s hq]
      exact iff_of_false nofun hbelow
    · obtain ⟨t, n, rfl⟩ := exists_eq_finite hy
      exact abs_sub_le_of_finite hb hm t n
    · obtain ⟨t, n, rfl⟩ := exists_eq_finite hy
      exact isEven_of_finite hb hm
  · have hm : ofRatio s a b = infinite s := ofUnits_infinite s (Nat.not_lt.mp hlim)
    rw [hm]
    refine ⟨nofun, ?_, nofun, nofun⟩
    rw [abs_signedRat s hq, overflowFrom_le_iff hb]
    exact iff_of_true rfl (Nat.not_lt.mp hlim)

end Ratio

theorem isNegative_ofUnits (s : Bool) (num den : Nat) : (ofUnits s num den).isNegative = s := by
  rcases Nat.lt_or_ge (toGrid 53 num den) unitsLimit with hlim | hlim
  · rw [ofUnits_finite s hlim, isNegative]
  · rw [ofUnits_infinite s hlim, isNegative]

theorem isNegative_ofMagnitude (s : Bool) (q : ℚ) : (ofMagnitude s q).isNegative = s := by
  rw [ofMagnitude, ofRatio, isNegative_ofUnits]

theorem isNearest_ofMagnitude (s : Bool) {q : ℚ} (h : 0 ≤ q) :
    (ofMagnitude s q).IsNearest (signedRat s q) := by
  have hden : 0 < q.den := q.den_pos
  have hvalue : (q.num.natAbs / q.den : ℚ) = q := by
    have hnum : ((q.num.natAbs : ℤ) : ℚ) = q.num := by
      rw [Int.natAbs_of_nonneg (Rat.num_nonneg.mpr h)]
    rw [← Int.cast_natCast, hnum, Rat.num_div_den]
  have hnearest := isNearest_ofRatio hden s (a := q.num.natAbs)
  rwa [hvalue] at hnearest

theorem abs_sub_lt_of_between {p q w r : ℚ} (hp : p < w) (hq : w < q) (h : |p - r| = |q - r|) :
    |w - r| < |p - r| := by
  rcases abs_cases (p - r) with ⟨hpr, hpsign⟩ | ⟨hpr, hpsign⟩ <;>
    rcases abs_cases (q - r) with ⟨hqr, hqsign⟩ | ⟨hqr, hqsign⟩ <;>
      rw [abs_lt] <;> constructor <;> linarith

theorem abs_signedRat_sub_right (s : Bool) (p r : ℚ) :
    |signedRat s p - r| = |p - signedRat s r| := by
  cases s with
  | false => rfl
  | true =>
    simp only [signedRat, if_true]
    rw [← abs_neg]
    congr 1
    ring

theorem units_lt_units {u v : Nat} (h : u < v) : (u / unitsPerOne : ℚ) < v / unitsPerOne :=
  (div_lt_div_iff_of_pos_right unitsPerOne_cast_pos).mpr (Nat.cast_lt.mpr h)

theorem not_isNearest_of_lt {s : Bool} {m n : Magnitude} {r : ℚ} (h : m.units < n.units)
    (hm : (finite s m).IsNearest r) (hn : (finite s n).IsNearest r) : False := by
  have hsame : |(finite s m).toRat - r| = |(finite s n).toRat - r| :=
    le_antisymm (hm.abs_sub_le rfl _ rfl) (hn.abs_sub_le rfl _ rfl)
  have hne : (finite s m).toRat ≠ (finite s n).toRat := by
    have hlt := units_lt_units h
    rw [toRat_eq_signedRat, toRat_eq_signedRat]
    cases s with
    | false => exact hlt.ne
    | true => exact fun heq => hlt.ne (neg_injective heq)
  obtain ⟨w, hgrid, hmw, hwn⟩ := exists_between (by decide)
    (hm.isEven rfl _ rfl hne.symm hsame.symm) (hn.isEven rfl _ rfl hne hsame) h
  have hnear := hm.abs_sub_le rfl (finite s ⟨w, hgrid, hwn.trans n.lt_limit⟩) rfl
  rw [toRat_eq_signedRat, toRat_eq_signedRat, abs_signedRat_sub_right,
    abs_signedRat_sub_right] at hnear hsame
  exact absurd hnear
    (not_le.mpr (abs_sub_lt_of_between (units_lt_units hmw) (units_lt_units hwn) hsame))

theorem IsNearest.unique {x y : Binary64} {r : ℚ} (hx : x.IsNearest r) (hy : y.IsNearest r)
    (hsign : x.isNegative = y.isNegative) : x = y := by
  have hinfinite : x.isInfinite = y.isInfinite := by
    rw [Bool.eq_iff_iff, hx.isInfinite_iff, hy.isInfinite_iff]
  cases x with
  | nan => exact absurd rfl hx.ne_nan
  | infinite s =>
    cases y with
    | nan => exact absurd rfl hy.ne_nan
    | infinite t => exact congrArg infinite hsign
    | finite t n => cases hinfinite
  | finite s m =>
    cases y with
    | nan => exact absurd rfl hy.ne_nan
    | infinite t => cases hinfinite
    | finite t n =>
      obtain rfl : s = t := hsign
      rcases Nat.lt_trichotomy m.units n.units with h | h | h
      · exact (not_isNearest_of_lt h hx hy).elim
      · rw [Magnitude.eq_of_units_eq h]
      · exact (not_isNearest_of_lt h hy hx).elim

end Binary64
end WindSymbols
