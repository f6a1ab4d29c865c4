import WindSymbols.Number.Rounding

/-! Order laws of rounding. A grid point that bounds a quotient bounds the rounded quotient too
(`le_toGrid`, `toGrid_le`), a larger quotient is never rounded to a smaller point (`toGrid_mono`),
and rounding depends on the value of a quotient alone (`toGrid_congr`). -/

namespace WindSymbols.Rounding

theorem nearest_le_of_le {num den k : Nat} (hd : 0 < den) (h : num ≤ k * den) :
    nearest num den ≤ k := by
  have hdiv : num / den ≤ k := Nat.div_le_of_le_mul (by rwa [Nat.mul_comm] at h)
  have hsplit := Nat.div_add_mod num den
  rcases Nat.lt_or_eq_of_le hdiv with hlt | heq
  · exact Nat.le_trans (nearest_le num den) hlt
  · -- the quotient is exact, so there is nothing to round
    have hmod : num % den = 0 := by
      rw [heq, Nat.mul_comm] at hsplit
      omega
    simp [nearest, hmod, heq, hd]

theorem le_nearest_of_le {num den k : Nat} (hd : 0 < den) (h : k * den ≤ num) :
    k ≤ nearest num den :=
  Nat.le_trans ((Nat.le_div_iff_mul_le hd).mpr h) (div_le_nearest num den)

theorem nearest_scale (num den : Nat) {c : Nat} (hc : 0 < c) :
    nearest (num * c) (den * c) = nearest num den := by
  have hassoc : 2 * (num % den * c) = 2 * (num % den) * c := (Nat.mul_assoc ..).symm
  have hlt : 2 * (num % den) * c < den * c ↔ 2 * (num % den) < den := Nat.mul_lt_mul_right hc
  have heq : 2 * (num % den) * c = den * c ↔ 2 * (num % den) = den := Nat.mul_left_inj (by omega)
  simp only [nearest, Nat.mul_div_mul_right _ _ hc, Nat.mul_mod_mul_right, hassoc, hlt, heq]

theorem nearest_mono {a b : Nat} (den : Nat) (h : a ≤ b) : nearest a den ≤ nearest b den := by
  rcases Nat.lt_or_eq_of_le (Nat.div_le_div_right (c := den) h) with hlt | heq
  · calc
      nearest a den ≤ a / den + 1 := nearest_le a den
      _ ≤ b / den := hlt
      _ ≤ nearest b den := div_le_nearest b den
  · -- with one quotient the remainders decide
    have hmod : a % den ≤ b % den := by
      have ha := Nat.div_add_mod a den
      have hb := Nat.div_add_mod b den
      rw [heq] at ha
      omega
    simp only [nearest, heq]
    repeat' split
    all_goals omega

theorem log2_le {a b : Nat} (h : a ≤ b) : a.log2 ≤ b.log2 := by
  rcases Nat.eq_zero_or_pos a with rfl | ha
  · simp
  · rw [Nat.le_log2 (by omega)]
    exact Nat.le_trans (Nat.log2_self_le (by omega)) h

theorem spacing_dvd_spacing {digits a b : Nat} (h : a ≤ b) :
    spacing digits a ∣ spacing digits b :=
  twoTo_dvd (by have := log2_le h; omega)

theorem toGrid_le {digits num den g : Nat} (hd : 0 < den) (hg : OnGrid digits g)
    (h : num ≤ g * den) : toGrid digits num den ≤ g := by
  have hq : num / den ≤ g := Nat.div_le_of_le_mul (by rwa [Nat.mul_comm] at h)
  obtain ⟨k, hk⟩ := Nat.dvd_trans (spacing_dvd_spacing hq) hg
  have hnum : num ≤ k * (den * spacing digits (num / den)) := by
    calc
      num ≤ g * den := h
      _ = k * (den * spacing digits (num / den)) := by
        conv => lhs; rw [hk]
        ac_rfl
  have hnear := nearest_le_of_le (Nat.mul_pos hd (spacing_pos ..)) hnum
  calc
    toGrid digits num den ≤ k * spacing digits (num / den) := Nat.mul_le_mul_right _ hnear
    _ = g := by rw [Nat.mul_comm, ← hk]

theorem le_toGrid_of_dvd {digits num den g : Nat} (hd : 0 < den)
    (hg : spacing digits (num / den) ∣ g) (h : g * den ≤ num) : g ≤ toGrid digits num den := by
  obtain ⟨k, hk⟩ := hg
  have hnum : k * (den * spacing digits (num / den)) ≤ num := by
    calc
      k * (den * spacing digits (num / den)) = g * den := by
        conv => rhs; rw [hk]
        ac_rfl
      _ ≤ num := h
  have hnear := le_nearest_of_le (Nat.mul_pos hd (spacing_pos ..)) hnum
  calc
    g = k * spacing digits (num / den) := by rw [Nat.mul_comm, ← hk]
    _ ≤ toGrid digits num den := Nat.mul_le_mul_right _ hnear

theorem le_toGrid {digits num den g : Nat} (hdigits : 0 < digits) (hd : 0 < den)
    (hg : OnGrid digits g) (h : g * den ≤ num) : g ≤ toGrid digits num den := by
  have hq : g ≤ num / den := (Nat.le_div_iff_mul_le hd).mpr h
  rcases Nat.lt_or_eq_of_le (log2_le hq) with hlt | heq
  · -- a power of two lies between, and it is on the grid of the quotient
    have hpos : num / den ≠ 0 := by
      intro h0
      simp [h0] at hlt
    have hpow : twoTo (num / den).log2 ≤ num / den := Nat.log2_self_le hpos
    have hg' : g ≤ twoTo (num / den).log2 := by
      have := lt_twoTo_log2 g
      exact Nat.le_of_lt (Nat.lt_of_lt_of_le this (twoTo_le (by omega)))
    have hdvd : spacing digits (num / den) ∣ twoTo (num / den).log2 := twoTo_dvd (by omega)
    exact Nat.le_trans hg' (le_toGrid_of_dvd hd hdvd ((Nat.le_div_iff_mul_le hd).mp hpow))
  · have hdvd : spacing digits (num / den) ∣ g := by
      rw [spacing, ← heq]
      exact hg
    exact le_toGrid_of_dvd hd hdvd h

theorem toGrid_scale (digits num den : Nat) {c : Nat} (hc : 0 < c) :
    toGrid digits (num * c) (den * c) = toGrid digits num den := by
  have hden : den * c * spacing digits (num / den) = den * spacing digits (num / den) * c := by
    ac_rfl
  simp only [toGrid, Nat.mul_div_mul_right _ _ hc, hden, nearest_scale _ _ hc]

theorem toGrid_congr (digits : Nat) {a b c d : Nat} (hb : 0 < b) (hd : 0 < d)
    (h : a * d = c * b) : toGrid digits a b = toGrid digits c d := by
  rw [← toGrid_scale digits a b hd, h, Nat.mul_comm b d, toGrid_scale digits c d hb]

theorem toGrid_mono_left {digits a b den : Nat} (hdigits : 0 < digits) (hd : 0 < den)
    (h : a ≤ b) : toGrid digits a den ≤ toGrid digits b den := by
  rcases Nat.lt_or_eq_of_le (log2_le (Nat.div_le_div_right (c := den) h)) with hlt | heq
  · -- a power of two lies between the quotients, and it is on both grids
    have hne : b / den ≠ 0 := by
      intro h0
      simp [h0] at hlt
    have hgrid : OnGrid digits (twoTo (b / den).log2) := by
      simpa using onGrid_mul_twoTo hdigits (twoTo_pos digits) (b / den).log2
    have habove : twoTo (b / den).log2 * den ≤ b :=
      (Nat.le_div_iff_mul_le hd).mp (Nat.log2_self_le hne)
    have hbelow : a ≤ twoTo (b / den).log2 * den := by
      have hquot : a / den < twoTo (b / den).log2 :=
        Nat.lt_of_lt_of_le (lt_twoTo_log2 _) (twoTo_le hlt)
      exact Nat.le_of_lt ((Nat.div_lt_iff_lt_mul hd).mp hquot)
    exact Nat.le_trans (toGrid_le hd hgrid hbelow) (le_toGrid hdigits hd hgrid habove)
  · simp only [toGrid, spacing, heq]
    exact Nat.mul_le_mul_right _ (nearest_mono _ h)

/-- Rounding keeps the order of quotients. -/
theorem toGrid_mono {digits a b c d : Nat} (hdigits : 0 < digits) (hb : 0 < b) (hd : 0 < d)
    (h : a * d ≤ c * b) : toGrid digits a b ≤ toGrid digits c d := by
  rw [← toGrid_scale digits a b hd, ← toGrid_scale digits c d hb, Nat.mul_comm d b]
  exact toGrid_mono_left hdigits (Nat.mul_pos hb hd) h

theorem spacing_double {digits q : Nat} (h : digits ≤ q.log2 + 1) :
    twoTo (q.log2 + 1 + 1 - digits) = 2 * spacing digits q := by
  have hexp : q.log2 + 1 + 1 - digits = 1 + (q.log2 + 1 - digits) := by omega
  rw [hexp, twoTo_add]
  rfl

/-- Where a quotient has more digits than the grid keeps, rounding commutes with doubling. -/
theorem toGrid_double {digits num den : Nat} (hq : num / den ≠ 0)
    (h : digits ≤ (num / den).log2 + 1) :
    toGrid digits (num * 2) den = 2 * toGrid digits num den := by
  have hhalf : num * 2 / den / 2 = num / den := by
    rw [Nat.div_div_eq_div_mul, Nat.mul_div_mul_right _ _ (by decide)]
  have htwo : 2 ≤ num * 2 / den := by
    have hpos := Nat.pos_of_ne_zero hq
    rw [← hhalf] at hpos
    exact Nat.div_pos_iff.mp hpos |>.2
  have hlog : (num * 2 / den).log2 = (num / den).log2 + 1 := by
    rw [Nat.log2_def, if_pos htwo, hhalf]
  have hspacing : spacing digits (num * 2 / den) = 2 * spacing digits (num / den) := by
    rw [← spacing_double h, spacing, hlog]
  have hden : den * (2 * spacing digits (num / den)) = den * spacing digits (num / den) * 2 := by
    ac_rfl
  rw [toGrid, toGrid, hspacing, hden, nearest_scale _ _ (by decide)]
  ac_rfl

end WindSymbols.Rounding
