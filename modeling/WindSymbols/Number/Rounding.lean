import WindSymbols.Number.Powers

/-!
Rounding a quotient of naturals to the nearest integer, and to the nearest point of a grid whose
points have a fixed number of leading binary digits. A tie goes to the even neighbour. The main
statement is `onGrid_toGrid`: what `toGrid` returns is a point of its grid.
-/

namespace WindSymbols.Rounding

def nearest (num den : Nat) : Nat :=
  let q := num / den
  let r := num % den
  if 2 * r < den then q
  else if 2 * r = den then q + q % 2
  else q + 1

theorem nearest_le (num den : Nat) : nearest num den ≤ num / den + 1 := by
  simp only [nearest]
  split
  · omega
  · split <;> omega

theorem div_le_nearest (num den : Nat) : num / den ≤ nearest num den := by
  simp only [nearest]
  split
  · omega
  · split <;> omega

theorem nearest_mul (q : Nat) {den : Nat} (h : 0 < den) : nearest (q * den) den = q := by
  simp [nearest, Nat.mul_div_cancel q h, h]

def spacing (digits q : Nat) : Nat := twoTo (q.log2 + 1 - digits)

theorem spacing_pos (digits q : Nat) : 0 < spacing digits q := twoTo_pos _

/-- All binary digits after the leading ones are zero. -/
def OnGrid (digits n : Nat) : Prop := spacing digits n ∣ n

instance (digits n : Nat) : Decidable (OnGrid digits n) :=
  inferInstanceAs (Decidable (_ ∣ _))

/-- The grid point nearest to `num / den`. -/
def toGrid (digits num den : Nat) : Nat :=
  let s := spacing digits (num / den)
  nearest num (den * s) * s

theorem onGrid_zero (digits : Nat) : OnGrid digits 0 := Nat.dvd_zero _

theorem spacing_mul_twoTo {digits u k : Nat} (hu : u ≠ 0) :
    spacing digits (u * twoTo k) ∣ twoTo k * twoTo (u.log2 + 1 - digits) := by
  have hne : u * twoTo k ≠ 0 := Nat.mul_ne_zero hu (Nat.ne_of_gt (twoTo_pos k))
  have hlog : (u * twoTo k).log2 < u.log2 + 1 + k := by
    rw [log2_lt_iff hne, twoTo_add]
    exact Nat.mul_lt_mul_of_pos_right (lt_twoTo_log2 u) (twoTo_pos k)
  rw [spacing, ← twoTo_add]
  exact twoTo_dvd (by omega)

theorem OnGrid.shift {few many u : Nat} (hu : OnGrid few u) (h : few ≤ many) (k : Nat) :
    OnGrid many (u * twoTo k) := by
  rcases Nat.eq_zero_or_pos u with rfl | hpos
  · rw [Nat.zero_mul]
    exact onGrid_zero many
  have hfine : twoTo (u.log2 + 1 - many) ∣ u := Nat.dvd_trans (twoTo_dvd (by omega)) hu
  refine Nat.dvd_trans (spacing_mul_twoTo (by omega)) ?_
  rw [Nat.mul_comm]
  exact Nat.mul_dvd_mul_right hfine _

theorem onGrid_of_lt {digits m : Nat} (hm : m < twoTo digits) : OnGrid digits m := by
  rcases Nat.eq_zero_or_pos m with rfl | hpos
  · exact onGrid_zero digits
  have hlog : m.log2 < digits := (log2_lt_iff (by omega)).mpr hm
  have hexp : m.log2 + 1 - digits = 0 := by omega
  rw [OnGrid, spacing, hexp]
  exact Nat.one_dvd m

theorem onGrid_twoTo {digits : Nat} (hd : 0 < digits) : OnGrid digits (twoTo digits) := by
  have hlog : (twoTo digits).log2 < digits + 1 :=
    (log2_lt_iff (Nat.ne_of_gt (twoTo_pos digits))).mpr (twoTo_lt (by omega))
  exact twoTo_dvd (by omega)

theorem onGrid_mul_twoTo {digits m : Nat} (hd : 0 < digits) (hm : m ≤ twoTo digits) (k : Nat) :
    OnGrid digits (m * twoTo k) := by
  rcases Nat.lt_or_eq_of_le hm with hlt | rfl
  · exact (onGrid_of_lt hlt).shift (Nat.le_refl _) k
  · exact (onGrid_twoTo hd).shift (Nat.le_refl _) k

theorem nearest_spacing_le {digits num den : Nat} :
    nearest num (den * spacing digits (num / den)) ≤ twoTo digits := by
  have hlt : num / den / spacing digits (num / den) < twoTo digits := by
    rw [Nat.div_lt_iff_lt_mul (spacing_pos ..), spacing, ← twoTo_add]
    exact Nat.lt_of_lt_of_le (lt_twoTo_log2 _) (twoTo_le (by omega))
  rw [Nat.div_div_eq_div_mul] at hlt
  exact Nat.le_trans (nearest_le ..) hlt

theorem onGrid_toGrid {digits : Nat} (hd : 0 < digits) (num den : Nat) :
    OnGrid digits (toGrid digits num den) :=
  onGrid_mul_twoTo hd nearest_spacing_le _

theorem toGrid_mul {digits u den : Nat} (hu : OnGrid digits u) (hd : 0 < den) :
    toGrid digits (u * den) den = u := by
  obtain ⟨k, hk⟩ := hu
  have hs : 0 < den * spacing digits u := Nat.mul_pos hd (spacing_pos ..)
  have hnum : u * den = k * (den * spacing digits u) := by
    conv => lhs; rw [hk]
    ac_rfl
  rw [toGrid, Nat.mul_div_cancel u hd, hnum, nearest_mul k hs, Nat.mul_comm, ← hk]

theorem toGrid_one {digits u : Nat} (hu : OnGrid digits u) : toGrid digits u 1 = u := by
  simpa using toGrid_mul hu Nat.one_pos

end WindSymbols.Rounding
