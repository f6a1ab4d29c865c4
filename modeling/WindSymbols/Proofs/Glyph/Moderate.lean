import WindSymbols.Proofs.Glyph.Range

/-! Lengths that are far from the largest number. As long as no length is larger than 2^970, the
walk down a glyph goes by at most that much at each step, rounding included, since the multiples of
2^970 are numbers (`within_roundedCorner`). So glyphs with fewer than some 2^51 pennants stay in
range (`reaches_of_moderate`, `endsFit_of_moderate`). -/

namespace WindSymbols

open Binary64

/-- No more than so many times 2^970 in size. -/
def Within (k : ℕ) (q : ℚ) : Prop := |q| ≤ k * 2 ^ 970

namespace Within

variable {j k : ℕ} {p q : ℚ}

theorem mono (hq : Within j q) (h : j ≤ k) : Within k q :=
  hq.trans (mul_le_mul_of_nonneg_right (Nat.cast_le.mpr h) (by positivity))

theorem add (hp : Within j p) (hq : Within k q) : Within (j + k) (p + q) := by
  rw [Within, Nat.cast_add, add_mul]
  exact (abs_add_le p q).trans (add_le_add hp hq)

theorem neg (hq : Within k q) : Within k (-q) := by rwa [Within, abs_neg]

theorem sub (hp : Within j p) (hq : Within k q) : Within (j + k) (p - q) := by
  rw [sub_eq_add_neg]
  exact hp.add hq.neg

theorem div (hq : Within k q) {c : ℚ} (hc : 1 ≤ c) : Within k (q / c) := by
  rw [Within, abs_div, abs_of_nonneg (zero_le_one.trans hc)]
  exact (div_le_self (abs_nonneg q) hc).trans hq

theorem inRange (hq : Within k q) (hk : k ≤ 2 ^ 53) : InRange q := by
  refine inRange_of_abs_le_pow (k := 1023) (by omega) (hq.trans ?_)
  have hcast : (k : ℚ) ≤ 2 ^ 53 := by exact_mod_cast hk
  calc
    (k : ℚ) * 2 ^ 970 ≤ 2 ^ 53 * 2 ^ 970 := mul_le_mul_of_nonneg_right hcast (by positivity)
    _ = 2 ^ 1023 := (pow_add 2 53 970).symm

end Within

theorem Binary64.IsNearest.within {x : Binary64} {q : ℚ} {k : ℕ} (h : x.IsNearest q)
    (hq : Within k q) (hk : k ≤ 2 ^ 53) : Within k x.toRat := by
  have hfinite := h.isFinite_iff.mpr (hq.inRange hk)
  obtain ⟨y, hy⟩ := exists_exactly_mul_pow hk
  have hneg := hy.neg
  obtain ⟨hlow, hhigh⟩ := abs_le.mp hq
  have hbelow := h.toRat_le hfinite hy.isFinite (hhigh.trans_eq hy.toRat_eq.symm)
  have habove := h.le_toRat hfinite hneg.isFinite (hneg.toRat_eq.trans_le hlow)
  rw [hy.toRat_eq] at hbelow
  rw [hneg.toRat_eq] at habove
  exact abs_le.mpr ⟨habove, hbelow⟩

theorem within_rounded {n : ℤ} {k : ℕ} (hn : Within k n) (hk : k ≤ 2 ^ 53) :
    Within k (rounded n) :=
  (isNearest_ofInt n).within hn hk

namespace WholeLengths

structure Moderate (d : WholeLengths) : Prop where
  pennantBase_pos : 0 < d.pennantBase
  shaft : Within 1 d.shaft
  pennantBase : Within 1 d.pennantBase
  spacing : Within 1 d.spacing
  longBarb : Within 1 d.longBarb

variable {d : WholeLengths} (hd : d.Moderate)

include hd

theorem Moderate.half : Within 1 (rounded d.pennantBase / 2) :=
  (within_rounded hd.pennantBase (by omega)).div one_le_two

/-- Half a base goes down by no more than 2^970, though both it and the position are rounded. -/
theorem within_lowered {y : ℤ} {k : ℕ} (hy : Within k y) (hk : k + 1 ≤ 2 ^ 53) :
    Within (k + 1) (d.lowered y) := by
  have hfinite := (isFinite_ofInt_iff y).mpr (hy.inRange (by omega))
  have hhalf := exactly_ofInt_div_two hd.pennantBase_pos (hd.pennantBase.inRange (by omega))
  have hstep := isNearest_sub hfinite hhalf.isFinite
  rw [hhalf.toRat_eq] at hstep
  exact (abs_truncated_le _).trans
    (hstep.within ((within_rounded hy (by omega)).sub hd.half) hk)

theorem within_roundedCorner {k : ℕ} (hk : k < 2 ^ 53) : Within (k + 1) (d.roundedCorner k) := by
  induction k with
  | zero => exact hd.shaft
  | succ k ih => exact within_lowered hd (ih (by omega)) (by omega)

theorem within_roundedFirst {pennants : ℕ} (h : 2 * pennants < 2 ^ 53) :
    Within (2 * pennants + 2) (d.roundedFirst pennants) := by
  rw [roundedFirst]
  split
  · exact hd.shaft.mono (by omega)
  · rw [Int.cast_sub]
    exact ((within_roundedCorner hd h).sub hd.spacing).mono (by omega)

theorem within_roundedLong {pennants : ℕ} (h : 2 * pennants < 2 ^ 53) (i : ℕ) :
    Within (2 * pennants + 2 + i) (d.roundedLong pennants i) := by
  induction i with
  | zero =>
    rw [roundedLong_zero]
    exact within_roundedFirst hd h
  | succ i ih =>
    rw [roundedLong_succ, Int.cast_sub]
    exact (ih.sub hd.spacing).mono (by omega)

theorem within_roundedShort {pennants : ℕ} (h : 2 * pennants < 2 ^ 53) (longBarbs : ℕ) :
    Within (2 * pennants + 2 + longBarbs) (d.roundedShort pennants longBarbs) := by
  rw [roundedShort]
  split
  · rw [Int.cast_sub]
    exact (hd.shaft.sub hd.spacing).mono (by omega)
  · exact within_roundedLong hd h longBarbs

variable {pennants longBarbs : ℕ} (h : 2 * pennants + longBarbs + 3 ≤ 2 ^ 53)

include h

theorem reaches_of_moderate (shortBarbs : ℕ) : d.Reaches pennants longBarbs shortBarbs where
  pennantBase := hd.pennantBase.inRange (by omega)
  longBarb := hd.longBarb.inRange (by omega)
  shaft := hd.shaft.inRange (by omega)
  step k hk := by
    have hcorner := within_rounded (within_roundedCorner hd (k := k) (by omega)) (by omega)
    exact (hcorner.sub hd.half).inRange (by omega)
  longAnchor i hi := (within_roundedLong hd (by omega) i).inRange (by omega)
  shortAnchor _ := (within_roundedShort hd (by omega) longBarbs).inRange (by omega)

theorem endsFit_of_moderate (shortBarbs : ℕ) : d.EndsFit pennants longBarbs shortBarbs where
  longBarb i hi := by
    have hlong := within_roundedLong hd (by omega : 2 * pennants < 2 ^ 53) i
    have hanchor := within_rounded hlong (by omega)
    exact (hanchor.add hd.half).inRange (by omega)
  shortBarb _ := by
    have hshort := within_roundedShort hd (by omega : 2 * pennants < 2 ^ 53) longBarbs
    have hanchor := within_rounded hshort (by omega)
    have hquarter : Within 1 (rounded d.pennantBase / 4) :=
      (within_rounded hd.pennantBase (by omega)).div (by norm_num)
    exact (hanchor.add hquarter).inRange (by omega)

end WholeLengths
end WindSymbols
