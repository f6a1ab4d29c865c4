import WindSymbols.Proofs.Number.DecimalValue
import WindSymbols.Proofs.Number.Nearest
import WindSymbols.Proofs.Number.Quarter
import Mathlib.Data.Nat.Cast.Order.Field

/-! Where double precision ends. A whole number, a sum or a difference is a finite number if and
only if its exact value is in range (`isFinite_ofInt_iff`, `isFinite_add_iff`, `isFinite_sub_iff`).
The whole part of a number is in range too (`inRange_truncated`), and so are half and a quarter of a
whole number, which need no rounding (`exactly_ofInt_div_two`, `exactly_ofInt_div_four`). -/

namespace WindSymbols.Binary64

open Rounding

/-- A value that is rounded to a finite number. -/
def InRange (q : ℚ) : Prop := |q| < overflowFrom

theorem inRange_of_abs_le_pow {q : ℚ} {k : ℕ} (hk : k < 1024) (h : |q| ≤ 2 ^ k) : InRange q := by
  have hsmall : (2 : ℚ) ^ k ≤ 2 ^ 1023 := pow_le_pow_right₀ one_le_two (by omega)
  have hgap : (2 : ℚ) ^ 970 < 2 ^ 1023 := pow_lt_pow_right₀ one_lt_two (by omega)
  have htwice : (2 : ℚ) ^ 1024 = 2 ^ 1023 + 2 ^ 1023 := by rw [pow_succ', two_mul]
  rw [InRange, overflowFrom, lt_sub_iff_add_lt, htwice]
  exact add_lt_add_of_le_of_lt (h.trans hsmall) hgap

theorem InRange.sub_of_nonneg {a b : ℚ} (ha : InRange a) (hb : InRange b) (hna : 0 ≤ a)
    (hnb : 0 ≤ b) : InRange (a - b) := by
  rw [InRange, abs_lt] at *
  constructor <;> linarith

namespace IsNearest

variable {x y : Binary64} {p q : ℚ}

theorem isFinite_iff (h : x.IsNearest q) : x.isFinite = true ↔ InRange q := by
  have hinfinite := h.isInfinite_iff
  rw [InRange, ← not_le, ← hinfinite]
  cases x with
  | nan => exact absurd rfl h.ne_nan
  | infinite s => exact ⟨nofun, fun hn => absurd rfl hn⟩
  | finite s m => exact ⟨fun _ => nofun, fun _ => rfl⟩

theorem toRat_le (h : x.IsNearest q) (hx : x.isFinite = true) (hy : y.isFinite = true)
    (hqy : q ≤ y.toRat) : x.toRat ≤ y.toRat := by
  have hnear := h.abs_sub_le hx y hy
  rw [abs_of_nonneg (sub_nonneg.mpr hqy)] at hnear
  linarith [le_abs_self (x.toRat - q)]

theorem le_toRat (h : x.IsNearest q) (hx : x.isFinite = true) (hy : y.isFinite = true)
    (hyq : y.toRat ≤ q) : y.toRat ≤ x.toRat := by
  have hnear := h.abs_sub_le hx y hy
  rw [abs_of_nonpos (sub_nonpos.mpr hyq)] at hnear
  linarith [neg_abs_le (x.toRat - q)]

end IsNearest

theorem isNearest_zero (s : Bool) : (finite s .zero).IsNearest 0 := by
  have h := isNearest_ofRatio (a := 0) Nat.one_pos s
  have hzero : ofRatio s 0 1 = finite s .zero := by
    rw [ofRatio, Nat.zero_mul, ofUnits_zero s Nat.one_pos]
  have hvalue : signedRat s ((0 : Nat) / (1 : Nat)) = 0 := by cases s <;> simp [signedRat]
  rwa [hzero, hvalue] at h

theorem signedRat_natAbs (n : ℤ) {c : ℚ} : signedRat (decide (n < 0)) (n.natAbs / c) = n / c := by
  by_cases h : n < 0
  · have habs : (n.natAbs : ℚ) = -n := by
      rw [Nat.cast_natAbs, abs_of_neg h, Int.cast_neg]
    rw [signedRat, decide_eq_true h, if_pos rfl, habs]
    ring
  · have habs : (n.natAbs : ℚ) = n := by
      rw [Nat.cast_natAbs, abs_of_nonneg (not_lt.mp h)]
    rw [signedRat, decide_eq_false h, if_neg Bool.false_ne_true, habs]

theorem isNearest_ofInt (n : ℤ) : (ofInt n).IsNearest n := by
  have h := isNearest_ofRatio (a := n.natAbs) Nat.one_pos (decide (n < 0))
  rw [signedRat_natAbs] at h
  simpa [ofInt] using h

def rounded (n : ℤ) : ℚ := (ofInt n).toRat

theorem isNegative_ofInt (n : ℤ) : (ofInt n).isNegative = decide (n < 0) := by
  rw [ofInt, ofRatio, isNegative_ofUnits]

theorem isFinite_ofInt_iff (n : ℤ) : (ofInt n).isFinite = true ↔ InRange n :=
  (isNearest_ofInt n).isFinite_iff

theorem rounded_nonneg {n : ℤ} (h : InRange n) (hn : 0 ≤ n) : 0 ≤ rounded n := by
  have hfinite := (isFinite_ofInt_iff n).mpr h
  have hzero : (0 : Binary64).toRat ≤ (n : ℚ) := exactly_zero.toRat_eq.trans_le (Int.cast_nonneg hn)
  have hle := (isNearest_ofInt n).le_toRat hfinite exactly_zero.isFinite hzero
  rwa [exactly_zero.toRat_eq] at hle

theorem toBinary64_whole_of_inRange {n : ℤ} (h : InRange n) :
    (Scalar.whole n).toBinary64 = .ok (ofInt n) := by
  simp only [Scalar.toBinary64, orTooLarge, (isFinite_ofInt_iff n).mpr h, if_true]

section Sum

variable {x y : Binary64} (hx : x.isFinite = true) (hy : y.isFinite = true)

include hx hy

theorem isNearest_add : (x + y).IsNearest (x.toRat + y.toRat) := by
  obtain ⟨s, a, rfl⟩ := exists_eq_finite hx
  obtain ⟨t, b, rfl⟩ := exists_eq_finite hy
  obtain ⟨sum, hsum⟩ : ∃ sum, sum = signed s a.units + signed t b.units := ⟨_, rfl⟩
  have hvalue : (finite s a).toRat + (finite t b).toRat = (sum : ℚ) / unitsPerOne := by
    rw [toRat_finite, toRat_finite, ← add_div, hsum, Int.cast_add]
  have hadd : finite s a + finite t b =
      if sum = 0 then finite (s && t) .zero else ofUnits (decide (sum < 0)) sum.natAbs 1 := by
    rw [hsum]
    rfl
  rw [hvalue, hadd]
  split
  · rename_i hzero
    rw [hzero, Int.cast_zero, zero_div]
    exact isNearest_zero _
  · have hratio : ofUnits (decide (sum < 0)) sum.natAbs 1 =
        ofRatio (decide (sum < 0)) sum.natAbs unitsPerOne :=
      ofUnits_congr _ Nat.one_pos unitsPerOne_pos (by rw [Nat.mul_one])
    rw [hratio, ← signedRat_natAbs]
    exact isNearest_ofRatio unitsPerOne_pos _

theorem isFinite_add_iff : (x + y).isFinite = true ↔ InRange (x.toRat + y.toRat) :=
  (isNearest_add hx hy).isFinite_iff

theorem isNearest_sub : (x - y).IsNearest (x.toRat - y.toRat) := by
  have hneg : (-y).isFinite = true := by
    obtain ⟨t, b, rfl⟩ := exists_eq_finite hy
    rfl
  have h := isNearest_add hx hneg
  rwa [toRat_neg, ← sub_eq_add_neg] at h

theorem isFinite_sub_iff : (x - y).isFinite = true ↔ InRange (x.toRat - y.toRat) :=
  (isNearest_sub hx hy).isFinite_iff

end Sum

theorem inRange_toRat (x : Binary64) : InRange x.toRat := by
  cases x with
  | nan => exact inRange_of_abs_le_pow (k := 0) (by omega) (by simp [toRat])
  | infinite s => exact inRange_of_abs_le_pow (k := 0) (by omega) (by simp [toRat])
  | finite s m =>
    have h := isNearest_ofMagnitude s (units_div_nonneg m.units)
    rw [ofMagnitude_units, ← toRat_eq_signedRat] at h
    exact h.isFinite_iff.mp rfl

def isFraction : Binary64 → Bool
  | finite _ m => m.units ≤ unitsPerOne
  | _ => false

theorem isFinite_mul_of_isFraction {x y : Binary64} (hx : x.isFinite = true)
    (hy : y.isFraction = true) : (x * y).isFinite = true := by
  obtain ⟨s, a, rfl⟩ := exists_eq_finite hx
  cases y with
  | nan => cases hy
  | infinite t => cases hy
  | finite t b =>
    have hgrid : toGrid 53 (a.units * b.units) unitsPerOne ≤ a.units :=
      toGrid_le unitsPerOne_pos a.onGrid (Nat.mul_le_mul_left _ (decide_eq_true_iff.mp hy))
    rw [mul_eq, ofUnits_finite _ (Nat.lt_of_le_of_lt hgrid a.lt_limit)]
    rfl

/-! The whole part of a number. -/

def truncated : Binary64 → ℤ
  | finite s m => signed s (m.units / unitsPerOne)
  | _ => 0

theorem abs_truncated_le (x : Binary64) : |(truncated x : ℚ)| ≤ |x.toRat| := by
  cases x with
  | nan => simp [truncated]
  | infinite s => simp [truncated]
  | finite s m =>
    have hfloor : ((m.units / unitsPerOne : Nat) : ℚ) ≤ m.units / unitsPerOne := Nat.cast_div_le
    rw [toRat_eq_signedRat, abs_signedRat s (units_div_nonneg _), truncated, ← Int.cast_abs,
      Int.abs_eq_natAbs, natAbs_signed, Int.cast_natCast]
    exact hfloor

theorem inRange_truncated (x : Binary64) : InRange (truncated x) :=
  lt_of_le_of_lt (abs_truncated_le x) (inRange_toRat x)

theorem truncate_of_finite {x : Binary64} (h : x.isFinite = true) :
    x.truncate = .ok (truncated x) := by
  obtain ⟨s, m, rfl⟩ := exists_eq_finite h
  rfl

theorem truncate_of_not_finite {x : Binary64} (hx : x ≠ nan) (h : ¬ x.isFinite = true) :
    x.truncate = .error .tooLarge := by
  cases x with
  | nan => exact absurd rfl hx
  | infinite s => rfl
  | finite s m => exact absurd rfl h

/-! Halves and quarters of whole numbers, which have digits to spare. -/

theorem toGrid_eq_two_mul {num den : ℕ} (hd : 0 < den) (h : den * 2 * twoTo 53 ≤ num) :
    toGrid 53 num den = 2 * toGrid 53 num (den * 2) := by
  have hd2 : 0 < den * 2 := by omega
  have hlarge : twoTo 53 ≤ num / (den * 2) := by rwa [Nat.le_div_iff_mul_le hd2, Nat.mul_comm]
  have hne : num / (den * 2) ≠ 0 := Nat.ne_of_gt (Nat.lt_of_lt_of_le (twoTo_pos 53) hlarge)
  have hlog : 53 ≤ (num / (den * 2)).log2 := by
    by_contra hlt
    exact Nat.not_le_of_lt ((log2_lt_iff hne).mp (Nat.lt_of_not_le hlt)) hlarge
  rw [← toGrid_double hne (by omega), toGrid_scale 53 num den (by omega : 0 < 2)]

theorem exactly_div_literal {m : Magnitude} {n num den : ℕ} (hn : 0 < n) (hsmall : n ≤ twoTo 53)
    (h : m.units = n * toGrid 53 num den) :
    (finite false m / OfNat.ofNat n).Exactly ((finite false m).toRat / n) := by
  have hlim : toGrid 53 num den < unitsLimit := by
    have hle : toGrid 53 num den ≤ m.units := h ▸ Nat.le_mul_of_pos_left _ hn
    exact Nat.lt_of_le_of_lt hle m.lt_limit
  obtain ⟨g, hg⟩ : ∃ g : Magnitude, g.units = toGrid 53 num den :=
    ⟨⟨_, onGrid_toGrid (by decide) num den, hlim⟩, rfl⟩
  have hpos : 0 < (wholeMagnitude n hsmall).units := Nat.mul_pos hn unitsPerOne_pos
  have hunits : m.units * unitsPerOne = g.units * (wholeMagnitude n hsmall).units := by
    rw [h, hg, wholeMagnitude_units, Nat.mul_comm n, Nat.mul_assoc]
  have hquotient : finite false m / OfNat.ofNat n = finite false g := by
    rw [literal_eq hsmall, div_eq hpos, hunits]
    exact ofUnits_eq_finite_iff.mpr ⟨rfl, toGrid_mul g.onGrid hpos⟩
  have hnq : (n : ℚ) ≠ 0 := Nat.cast_ne_zero.mpr (by omega)
  rw [hquotient]
  refine ⟨rfl, ?_⟩
  rw [toRat_finite, toRat_finite, signed_false, signed_false, h, ← hg, div_right_comm]
  push_cast
  rw [mul_div_cancel_left₀ _ hnq]

section Whole

variable {n : ℤ} (hn : 0 < n) (h : InRange n)

include hn h

theorem exists_ofInt_eq : ∃ m, ofInt n = finite false m ∧
    m.units = 2 * toGrid 53 (n.natAbs * unitsPerOne) 2 ∧
    m.units = 4 * toGrid 53 (n.natAbs * unitsPerOne) 4 := by
  obtain ⟨m, hm, hunits⟩ := Scalar.toBinary64_whole hn (toBinary64_whole_of_inRange h)
  have hlarge : 2 * 2 * twoTo 53 ≤ n.natAbs * unitsPerOne := by
    have hfour : 2 * 2 * twoTo 53 = twoTo 55 := by decide
    have hone : unitsPerOne ≤ n.natAbs * unitsPerOne := Nat.le_mul_of_pos_left _ (by omega)
    rw [hfour]
    exact (twoTo_le (by omega : 55 ≤ 1074)).trans hone
  have hquarter := toGrid_eq_two_mul Nat.two_pos hlarge
  rw [Scalar.toGrid_whole (by omega)] at hunits
  refine ⟨m, hm, hunits, ?_⟩
  rw [hunits, hquarter, ← Nat.mul_assoc]

theorem exactly_ofInt_div_two : (ofInt n / 2).Exactly (rounded n / 2) := by
  obtain ⟨m, hm, hunits, -⟩ := exists_ofInt_eq hn h
  rw [rounded, hm]
  exact exactly_div_literal (n := 2) (by omega) (by decide) hunits

theorem exactly_ofInt_div_four : (ofInt n / 4).Exactly (rounded n / 4) := by
  obtain ⟨m, hm, -, hunits⟩ := exists_ofInt_eq hn h
  rw [rounded, hm]
  exact exactly_div_literal (n := 4) (by omega) (by decide) hunits

end Whole

/-- Up to 2^53 multiples of 2^970 are numbers. -/
theorem exists_exactly_mul_pow {k : ℕ} (h : k ≤ 2 ^ 53) :
    ∃ x : Binary64, x.Exactly (k * 2 ^ 970) := by
  have hlim : k * twoTo 2044 < unitsLimit := by
    calc
      k * twoTo 2044 ≤ twoTo 53 * twoTo 2044 := Nat.mul_le_mul_right _ h
      _ = twoTo 2097 := (twoTo_add ..).symm
      _ < unitsLimit := twoTo_lt (by omega)
  refine ⟨finite false ⟨k * twoTo 2044, onGrid_mul_twoTo (by decide) h _, hlim⟩,
    exactly_finite_iff.mpr ?_⟩
  dsimp only
  rw [signed_false, unitsPerOne, twoTo_cast, mul_assoc, ← pow_add]
  push_cast [twoTo_cast]
  rfl

end WindSymbols.Binary64
