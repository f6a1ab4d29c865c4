import WindSymbols.Proofs.Number.Grid

/-! The error of rounding. A rounded quotient is at most half a spacing away from the exact one
(`toGrid_mul_le`, `le_toGrid_mul`), and two grid points are no closer than the spacing below the
larger of them (`add_spacing_le`). -/

namespace WindSymbols.Rounding

theorem nearest_mul_le (num : Nat) {den : Nat} (hd : 0 < den) :
    2 * (nearest num den * den) ≤ 2 * num + den := by
  have hsplit := Nat.div_add_mod num den
  have hmod := Nat.mod_lt num hd
  have hparity := Nat.mod_lt (num / den) Nat.two_pos
  rw [Nat.mul_comm] at hsplit
  simp only [nearest]
  split
  · omega
  · split
    · -- an odd quotient goes up by half of the divisor
      have hup : num / den % 2 * den ≤ 1 * den := Nat.mul_le_mul_right den (by omega)
      rw [Nat.add_mul]
      omega
    · rw [Nat.add_mul]
      omega

theorem le_nearest_mul (num : Nat) {den : Nat} (hd : 0 < den) :
    2 * num ≤ 2 * (nearest num den * den) + den := by
  have hsplit := Nat.div_add_mod num den
  have hmod := Nat.mod_lt num hd
  rw [Nat.mul_comm] at hsplit
  simp only [nearest]
  split
  · omega
  · split
    · rw [Nat.add_mul]
      omega
    · rw [Nat.add_mul]
      omega

theorem toGrid_mul_eq (digits num den : Nat) :
    toGrid digits num den * den =
      nearest num (den * spacing digits (num / den)) * (den * spacing digits (num / den)) := by
  rw [toGrid]
  ac_rfl

theorem toGrid_mul_le (digits num : Nat) {den : Nat} (hd : 0 < den) :
    2 * (toGrid digits num den * den) ≤ 2 * num + den * spacing digits (num / den) := by
  rw [toGrid_mul_eq]
  exact nearest_mul_le num (Nat.mul_pos hd (spacing_pos ..))

theorem le_toGrid_mul (digits num : Nat) {den : Nat} (hd : 0 < den) :
    2 * num ≤ 2 * (toGrid digits num den * den) + den * spacing digits (num / den) := by
  rw [toGrid_mul_eq]
  exact le_nearest_mul num (Nat.mul_pos hd (spacing_pos ..))

theorem spacing_dvd_toGrid (digits num den : Nat) :
    spacing digits (num / den) ∣ toGrid digits num den :=
  Nat.dvd_mul_left ..

theorem onGrid_of_dvd {digits a b : Nat} (hab : a ≤ b) (h : spacing digits b ∣ a) :
    OnGrid digits a :=
  Nat.dvd_trans (spacing_dvd_spacing hab) h

theorem add_le_of_dvd {a b s : Nat} (ha : s ∣ a) (hb : s ∣ b) (h : a < b) : a + s ≤ b := by
  have hdvd : s ∣ b - a := Nat.dvd_sub hb ha
  have hle := Nat.le_of_dvd (by omega) hdvd
  omega

theorem spacing_pred_dvd {digits b : Nat} (hb : OnGrid digits b) : spacing digits (b - 1) ∣ b :=
  Nat.dvd_trans (spacing_dvd_spacing (Nat.sub_le b 1)) hb

theorem add_spacing_le {digits a b : Nat} (hdigits : 0 < digits) (ha : OnGrid digits a)
    (hb : OnGrid digits b) (h : a < b) : a + spacing digits (b - 1) ≤ b := by
  rcases Nat.lt_or_eq_of_le (log2_le (show a ≤ b - 1 by omega)) with hlt | heq
  · -- a power of two lies between, and it is a multiple of the spacing
    have hpow : twoTo (b - 1).log2 ≤ b - 1 := Nat.log2_self_le (by rintro h0; simp [h0] at hlt)
    have hle : a ≤ twoTo (b - 1).log2 := by
      have := lt_twoTo_log2 a
      exact Nat.le_of_lt (Nat.lt_of_lt_of_le this (twoTo_le hlt))
    have hdvd : spacing digits (b - 1) ∣ twoTo (b - 1).log2 := twoTo_dvd (by omega)
    have := add_le_of_dvd hdvd (spacing_pred_dvd hb) (by omega)
    omega
  · have hdvd : spacing digits (b - 1) ∣ a := by
      rw [spacing, ← heq]
      exact ha
    exact add_le_of_dvd hdvd (spacing_pred_dvd hb) h

end WindSymbols.Rounding
