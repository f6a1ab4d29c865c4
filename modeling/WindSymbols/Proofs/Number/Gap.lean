import WindSymbols.Proofs.Number.Error
import WindSymbols.Number.Binary64
import Mathlib.Algebra.Order.Ring.Abs
import Mathlib.Tactic.Linarith
import Mathlib.Tactic.Ring

/-! The grid point nearest to a quotient. Rounding finds it: no grid point is closer
(`gap_toGrid_le`), and where another one is as close the rounded quotient ends in zero
(`even_toGrid`). Two points that end in zero have one between them (`exists_between`), so there is
no second point of that kind. -/

namespace WindSymbols

namespace Rounding

/-- How far `num / den` is from a whole number, in parts of `den`. -/
def gap (num den k : Nat) : ℤ := |(num : ℤ) - k * den|

def EvenOnGrid (digits n : Nat) : Prop := 2 * spacing digits n ∣ n

theorem le_gap_add_gap (num den : Nat) {k n : Nat} (h : k ≠ n) :
    (den : ℤ) ≤ gap num den k + gap num den n := by
  have hone : 1 ≤ |(k : ℤ) - n| := Int.one_le_abs (by omega)
  calc
    (den : ℤ) = 1 * den := (one_mul _).symm
    _ ≤ |(k : ℤ) - n| * den := mul_le_mul_of_nonneg_right hone (Int.natCast_nonneg den)
    _ = |((num : ℤ) - n * den) - (num - k * den)| := by
      rw [← Nat.abs_cast den, ← abs_mul, Nat.abs_cast]
      congr 1
      ring
    _ ≤ gap num den n + gap num den k := abs_sub _ _
    _ = gap num den k + gap num den n := add_comm _ _

theorem two_mul_gap_nearest_le (num : Nat) {den : Nat} (hd : 0 < den) :
    2 * gap num den (nearest num den) ≤ den := by
  have hhigh := nearest_mul_le num hd
  have hlow := le_nearest_mul num hd
  have hbound : |(num : ℤ) - (nearest num den * den : Nat)| * 2 ≤ den := by
    rcases abs_cases ((num : ℤ) - (nearest num den * den : Nat)) with ⟨h, -⟩ | ⟨h, -⟩ <;>
      rw [h] <;> omega
  rw [gap, ← Nat.cast_mul]
  omega

theorem gap_nearest_le (num : Nat) {den : Nat} (hd : 0 < den) (k : Nat) :
    gap num den (nearest num den) ≤ gap num den k := by
  by_cases h : k = nearest num den
  · rw [h]
  · have := le_gap_add_gap num den h
    have := two_mul_gap_nearest_le num hd
    omega

theorem even_of_two_mul_gap_eq {num den : Nat} (hd : 0 < den)
    (h : 2 * gap num den (nearest num den) = den) : nearest num den % 2 = 0 := by
  have hsplit := Nat.div_add_mod num den
  have hmod := Nat.mod_lt num hd
  rw [Nat.mul_comm] at hsplit
  by_cases htie : 2 * (num % den) = den
  · rw [nearest]
    simp only [htie, Nat.lt_irrefl, if_false, if_true]
    omega
  · -- the two parts on either side of the nearest number differ, so none of them is half
    exfalso
    have hparts : gap num den (nearest num den) = (num % den : Nat) ∨
        gap num den (nearest num den) = (den : ℤ) - (num % den : Nat) := by
      rw [gap, nearest]
      simp only [htie, if_false]
      split
      · left
        rw [← Nat.cast_mul, abs_of_nonneg (by omega)]
        omega
      · right
        rw [← Nat.cast_mul, Nat.add_mul, Nat.one_mul, abs_of_nonpos (by omega)]
        omega
    omega

theorem even_nearest {num den k : Nat} (hd : 0 < den) (hne : k ≠ nearest num den)
    (h : gap num den k = gap num den (nearest num den)) : nearest num den % 2 = 0 := by
  refine even_of_two_mul_gap_eq hd ?_
  have := le_gap_add_gap num den hne
  have := two_mul_gap_nearest_le num hd
  omega

theorem gap_mul (num den k s : Nat) : gap num den (k * s) = gap num (den * s) k := by
  unfold gap
  push_cast
  congr 2
  ring

/-- A grid point between the points around a quotient lies below its leading digit. -/
theorem lt_of_not_dvd {digits q v : Nat} (hv : OnGrid digits v) (h : ¬ spacing digits q ∣ v) :
    v < twoTo q.log2 := by
  by_contra hge
  refine h (Nat.dvd_trans (twoTo_dvd ?_) hv)
  have hle := log2_le (Nat.not_lt.mp hge)
  have hpow : (twoTo q.log2).log2 = q.log2 := Nat.log2_two_pow
  omega

theorem spacing_dvd_leading {digits : Nat} (hdigits : 0 < digits) (q : Nat) :
    spacing digits q ∣ twoTo q.log2 :=
  twoTo_dvd (by omega)

section Grid

variable {digits num den v : Nat} (hdigits : 0 < digits) (hd : 0 < den)

include hd

theorem gap_toGrid_le_of_dvd (h : spacing digits (num / den) ∣ v) :
    gap num den (toGrid digits num den) ≤ gap num den v := by
  obtain ⟨k, rfl⟩ := h
  rw [toGrid, Nat.mul_comm (spacing _ _), gap_mul, gap_mul]
  exact gap_nearest_le num (Nat.mul_pos hd (spacing_pos ..)) k

include hdigits

theorem gap_toGrid_lt_of_not_dvd (hv : OnGrid digits v)
    (h : ¬ spacing digits (num / den) ∣ v) :
    gap num den (toGrid digits num den) < gap num den v := by
  have hlt := lt_of_not_dvd hv h
  have hne : num / den ≠ 0 := by
    intro hzero
    rw [hzero] at h hlt
    have hv0 : v = 0 := Nat.lt_one_iff.mp hlt
    rw [hv0] at h
    exact h (Nat.dvd_zero _)
  have hpow : twoTo (num / den).log2 * den ≤ num :=
    (Nat.le_div_iff_mul_le hd).mp (Nat.log2_self_le hne)
  have hmul : v * den < twoTo (num / den).log2 * den := Nat.mul_lt_mul_of_pos_right hlt hd
  refine lt_of_le_of_lt (gap_toGrid_le_of_dvd hd (spacing_dvd_leading hdigits _)) ?_
  rw [gap, gap, ← Nat.cast_mul, ← Nat.cast_mul, abs_of_nonneg (by omega), abs_of_nonneg (by omega)]
  omega

theorem gap_toGrid_le (hv : OnGrid digits v) :
    gap num den (toGrid digits num den) ≤ gap num den v := by
  by_cases h : spacing digits (num / den) ∣ v
  · exact gap_toGrid_le_of_dvd hd h
  · exact (gap_toGrid_lt_of_not_dvd hdigits hd hv h).le

end Grid

theorem evenOnGrid_mul_twoTo {digits k : Nat} (hdigits : 2 ≤ digits) (hk : k ≤ twoTo digits)
    (heven : k % 2 = 0) (e : Nat) : EvenOnGrid digits (k * twoTo e) := by
  rcases Nat.eq_zero_or_pos k with rfl | hpos
  · rw [Nat.zero_mul]
    exact Nat.dvd_zero _
  rcases Nat.lt_or_eq_of_le hk with hlt | rfl
  · have hlog : k.log2 < digits := (log2_lt_iff (by omega)).mpr hlt
    have hfine : spacing digits (k * twoTo e) ∣ twoTo e * twoTo (k.log2 + 1 - digits) :=
      spacing_mul_twoTo (Nat.ne_of_gt hpos)
    have hexp : k.log2 + 1 - digits = 0 := by omega
    have hone : twoTo 0 = 1 := rfl
    rw [hexp, hone, Nat.mul_one] at hfine
    exact Nat.mul_dvd_mul (Nat.dvd_of_mod_eq_zero heven) hfine
  · -- a carry into a new leading digit leaves zeros alone
    have hlog : (twoTo (digits + e)).log2 = digits + e := Nat.log2_two_pow
    have htwo : 2 = twoTo 1 := rfl
    rw [EvenOnGrid, ← twoTo_add, spacing, hlog, htwo, ← twoTo_add]
    exact twoTo_dvd (by omega)

theorem even_toGrid {digits num den v : Nat} (hdigits : 2 ≤ digits) (hd : 0 < den)
    (hv : OnGrid digits v) (hne : v ≠ toGrid digits num den)
    (h : gap num den v = gap num den (toGrid digits num den)) :
    EvenOnGrid digits (toGrid digits num den) := by
  by_cases hdvd : spacing digits (num / den) ∣ v
  · obtain ⟨k, rfl⟩ := hdvd
    rw [toGrid, Nat.mul_comm (spacing _ _)] at hne h
    rw [gap_mul, gap_mul] at h
    have heven := even_nearest (Nat.mul_pos hd (spacing_pos ..)) (fun hk => hne (hk ▸ rfl)) h
    exact evenOnGrid_mul_twoTo hdigits nearest_spacing_le heven _
  · have := gap_toGrid_lt_of_not_dvd (by omega) hd hv hdvd
    omega

theorem onGrid_add_spacing {digits u : Nat} (hdigits : 0 < digits) (hu : OnGrid digits u) :
    OnGrid digits (u + spacing digits u) := by
  obtain ⟨k, hk⟩ := hu
  have hnext : u + spacing digits u = (k + 1) * spacing digits u := by
    rw [Nat.add_mul, Nat.one_mul, Nat.mul_comm k, ← hk]
  rw [hnext]
  refine onGrid_mul_twoTo hdigits (Nat.lt_of_mul_lt_mul_right (a := spacing digits u) ?_) _
  calc
    k * spacing digits u = u := by rw [Nat.mul_comm, ← hk]
    _ < twoTo (u.log2 + 1) := lt_twoTo_log2 u
    _ ≤ twoTo (digits + (u.log2 + 1 - digits)) := twoTo_le (by omega)
    _ = twoTo digits * spacing digits u := twoTo_add ..

/-- Between two points that end in zero lies a point that does not. -/
theorem exists_between {digits u v : Nat} (hdigits : 0 < digits) (hu : EvenOnGrid digits u)
    (hv : EvenOnGrid digits v) (h : u < v) : ∃ w, OnGrid digits w ∧ u < w ∧ w < v := by
  have hgrid : OnGrid digits u := Nat.dvd_trans (Nat.dvd_mul_left ..) hu
  have hpos := spacing_pos digits u
  have hdvd : 2 * spacing digits u ∣ v :=
    Nat.dvd_trans (Nat.mul_dvd_mul_left 2 (spacing_dvd_spacing (Nat.le_of_lt h))) hv
  have hfar := add_le_of_dvd hu hdvd h
  exact ⟨u + spacing digits u, onGrid_add_spacing hdigits hgrid, by omega, by omega⟩

/-- Where rounding goes beyond the largest number: halfway to the next one there would be. -/
theorem unitsLimit_le_toGrid_iff {num den : Nat} (hd : 0 < den) :
    unitsLimit ≤ toGrid 53 num den ↔ (unitsLimit - twoTo 2044) * den ≤ num := by
  have hhalf : toGrid 53 (unitsLimit - twoTo 2044) 1 = unitsLimit := by decide +kernel
  constructor
  · intro h
    by_contra hlt
    -- the largest number is closer than the limit
    have hlargest : OnGrid 53 (unitsLimit - twoTo 2045) := by decide +kernel
    have hsum : unitsLimit - twoTo 2045 + unitsLimit = 2 * (unitsLimit - twoTo 2044) := by
      decide +kernel
    have hbelow : unitsLimit - twoTo 2045 < unitsLimit := by decide +kernel
    have hgap : gap num den (toGrid 53 num den) ≤ gap num den (unitsLimit - twoTo 2045) :=
      gap_toGrid_le (by decide) hd hlargest
    generalize unitsLimit - twoTo 2045 = largest at *
    generalize unitsLimit - twoTo 2044 = middle at *
    have habove : largest * den < num := by
      by_contra hle
      have := toGrid_le hd hlargest (Nat.not_lt.mp hle)
      omega
    have hlimit : unitsLimit * den ≤ toGrid 53 num den * den := Nat.mul_le_mul_right den h
    have hsum' : largest * den + unitsLimit * den = 2 * (middle * den) := by
      rw [← Nat.add_mul, hsum, Nat.mul_assoc]
    have hnear : gap num den largest = num - (largest * den : Nat) := by
      rw [gap, ← Nat.cast_mul]
      exact abs_of_nonneg (by omega)
    have hfar : (toGrid 53 num den * den : Nat) - (num : ℤ) ≤ gap num den (toGrid 53 num den) := by
      rw [gap, ← Nat.cast_mul, abs_sub_comm]
      exact le_abs_self _
    omega
  · intro h
    rw [← hhalf]
    exact toGrid_mono (by decide) Nat.one_pos hd (by rwa [Nat.mul_one])

end Rounding
end WindSymbols
