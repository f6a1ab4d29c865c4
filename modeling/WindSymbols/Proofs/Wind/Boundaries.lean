import WindSymbols.Proofs.Number.Error
import WindSymbols.Proofs.Number.Value
import WindSymbols.Proofs.Symbols.Table
import Mathlib.Tactic.Linarith
import Mathlib.Tactic.Ring

/-! Where the speed line is cut. The last number below a boundary is never rounded up to the next
family, because the gap before it is at least four times as wide as the gap before that family
(`familyUnits_lt_of_dvd`), and the first number from a boundary on is never rounded down
(`le_familyUnits`). So the buckets are those of exact arithmetic (`Profile.classify_cuts`), as long
as the boundaries themselves have no more than 53 binary digits. -/

namespace WindSymbols

open Rounding Binary64

theorem spacing_dvd_unitsPerOne {b : Nat} (hb : b ≤ twoTo 53) :
    spacing 53 (b * unitsPerOne - 1) ∣ unitsPerOne := by
  have hle : (b * unitsPerOne - 1).log2 ≤ 1126 := by
    have hlt : b * unitsPerOne - 1 < twoTo 1127 := by
      calc
        b * unitsPerOne - 1 ≤ twoTo 53 * unitsPerOne - 1 :=
          Nat.sub_le_sub_right (Nat.mul_le_mul_right _ hb) 1
        _ < twoTo 1127 := by decide +kernel
    by_cases h0 : b * unitsPerOne - 1 = 0
    · rw [h0]
      decide
    · exact Nat.le_of_lt_succ ((log2_lt_iff h0).mpr hlt)
  exact twoTo_dvd (by omega)

theorem four_spacing_le {a b : Nat} (ha : unitsPerOne ≤ a + 1) (h : 4 * a ≤ b) :
    4 * spacing 53 a ≤ spacing 53 b := by
  have hpos : twoTo 1073 ≤ a := by
    have : twoTo 1073 + 1 ≤ unitsPerOne := by decide +kernel
    omega
  have hne : a ≠ 0 := by
    have := twoTo_pos 1073
    omega
  have hlarge : 1073 ≤ a.log2 := by
    rw [← Nat.not_lt, log2_lt_iff hne]
    omega
  have hlog : a.log2 + 2 ≤ b.log2 := by
    rw [Nat.le_log2 (by omega), Nat.pow_add, Nat.mul_comm]
    exact Nat.le_trans (Nat.mul_le_mul_left 4 (Nat.log2_self_le hne)) h
  calc
    4 * spacing 53 a = twoTo (2 + (a.log2 + 1 - 53)) := (twoTo_add 2 _).symm
    _ ≤ spacing 53 b := twoTo_le (by omega)

/-- Where a quotient by five ends at least four spacings below its bound, it is rounded to more than
half a spacing below a fifth of that. -/
theorem quotient_lt {d w s : Nat} (hs : 0 < s) (hw : s ∣ w) (hd : d + 4 * s ≤ 5 * w)
    (hspacing : spacing 53 (d / 5) ∣ s) : 2 * toGrid 53 d 5 + s < 2 * w := by
  have herror := toGrid_mul_le 53 d (show 0 < 5 by decide)
  obtain ⟨c, hc⟩ := hspacing
  have hcpos : 0 < c := Nat.pos_of_mul_pos_left (hc ▸ hs)
  rcases Nat.lt_or_eq_of_le (show 1 ≤ c from hcpos) with hwide | rfl
  · -- the grid of the quotient is finer, so that half of its spacing is a small error
    have : spacing 53 (d / 5) * 2 ≤ spacing 53 (d / 5) * c := Nat.mul_le_mul_left _ hwide
    omega
  · -- the quotient is rounded to a multiple of the spacing that is below the bound
    rw [Nat.mul_one] at hc
    have hdvd : s ∣ toGrid 53 d 5 := hc ▸ spacing_dvd_toGrid 53 d 5
    have := add_le_of_dvd hdvd hw (by omega)
    omega

/-- The boundary lies three above five times `w`. Between it and the number before it are at least
four spacings of the numbers below the next family, which is one above `w`. -/
theorem familyUnits_lt_of_dvd {w : Nat} {m : Magnitude} (hw : unitsPerOne ∣ w)
    (hwone : unitsPerOne ≤ w) (hgrid : OnGrid 53 (5 * w + 3 * unitsPerOne))
    (htone : spacing 53 (5 * w + 3 * unitsPerOne - 1) ∣ unitsPerOne)
    (hsone : spacing 53 (w + unitsPerOne - 1) ∣ unitsPerOne)
    (hm : m.units < 5 * w + 3 * unitsPerOne) : familyUnits m.units < w + unitsPerOne := by
  obtain ⟨t, ht⟩ : ∃ t, t = spacing 53 (5 * w + 3 * unitsPerOne - 1) := ⟨_, rfl⟩
  obtain ⟨s, hs⟩ : ∃ s, s = spacing 53 (w + unitsPerOne - 1) := ⟨_, rfl⟩
  have hone := unitsPerOne_pos
  have hspos : 0 < s := hs ▸ spacing_pos ..
  have hst : 4 * s ≤ t := by
    rw [hs, ht]
    exact four_spacing_le (by omega) (by omega)
  have hspeed : m.units + t ≤ 5 * w + 3 * unitsPerOne := by
    rw [ht]
    exact add_spacing_le (by decide) m.onGrid hgrid hm
  rw [← ht] at htone
  rw [← hs] at hsone
  have htle : t ≤ unitsPerOne := Nat.le_of_dvd hone htone
  obtain ⟨d, hd⟩ : ∃ d, d = toGrid 53 (m.units - 3 * unitsPerOne) 1 := ⟨_, rfl⟩
  have hdifference : d ≤ 5 * w - t := by
    have hdvd : spacing 53 (5 * w + 3 * unitsPerOne - 1) ∣ 5 * w - t := by
      rw [← ht]
      exact Nat.dvd_sub (Nat.dvd_mul_left_of_dvd (Nat.dvd_trans htone hw) 5) (Nat.dvd_refl t)
    rw [hd]
    exact toGrid_le Nat.one_pos (onGrid_of_dvd (by omega) hdvd) (by omega)
  have hquotient : 2 * toGrid 53 d 5 + s < 2 * w := by
    refine quotient_lt hspos (Nat.dvd_trans hsone hw) (by omega) ?_
    rw [hs]
    exact spacing_dvd_spacing (by omega)
  have hspacing : spacing 53 ((toGrid 53 d 5 + unitsPerOne) / 1) ≤ s := by
    rw [hs]
    exact Nat.le_of_dvd (spacing_pos ..) (spacing_dvd_spacing (by omega))
  have hsum := toGrid_mul_le 53 (toGrid 53 d 5 + unitsPerOne) Nat.one_pos
  rw [familyUnits, ← hd]
  omega

theorem familyUnits_lt {k : Nat} {m : Magnitude} (hk : 5 * k + 3 ≤ twoTo 53)
    (hthree : 3 * unitsPerOne ≤ m.units) (h : m.units < (5 * k + 3) * unitsPerOne) :
    familyUnits m.units < (k + 1) * unitsPerOne := by
  have hpos : 0 < k := by
    refine Nat.pos_of_ne_zero ?_
    rintro rfl
    omega
  have hbound : (5 * k + 3) * unitsPerOne = 5 * (k * unitsPerOne) + 3 * unitsPerOne := by
    rw [Nat.add_mul, Nat.mul_assoc]
  have hnext : (k + 1) * unitsPerOne = k * unitsPerOne + unitsPerOne := Nat.succ_mul ..
  have hgrid : OnGrid 53 ((5 * k + 3) * unitsPerOne) := onGrid_mul_twoTo (by decide) hk 1074
  have htone := spacing_dvd_unitsPerOne hk
  have hsone := spacing_dvd_unitsPerOne (show k + 1 ≤ twoTo 53 by omega)
  rw [hbound] at h hgrid htone
  rw [hnext] at hsone ⊢
  exact familyUnits_lt_of_dvd (Nat.dvd_mul_left ..) (Nat.le_mul_of_pos_left _ hpos) hgrid htone
    hsone h

theorem le_familyUnits {k units : Nat} (hk : 5 * k + 3 ≤ twoTo 53)
    (h : (5 * k + 3) * unitsPerOne ≤ units) : (k + 1) * unitsPerOne ≤ familyUnits units := by
  have hfive : 5 * k ≤ twoTo 53 := by omega
  have hfamily : k ≤ twoTo 53 := by omega
  have hnext : k + 1 ≤ twoTo 53 := by omega
  have hbound : (5 * k + 3) * unitsPerOne = 5 * k * unitsPerOne + 3 * unitsPerOne := Nat.add_mul ..
  have hdifference : 5 * k * unitsPerOne ≤ toGrid 53 (units - 3 * unitsPerOne) 1 := by
    refine le_toGrid (by decide) Nat.one_pos (onGrid_mul_twoTo (by decide) hfive 1074) ?_
    rw [Nat.mul_one]
    exact Nat.le_sub_of_add_le (hbound ▸ h)
  have hquotient : k * unitsPerOne ≤
      toGrid 53 (toGrid 53 (units - 3 * unitsPerOne) 1) 5 := by
    refine le_toGrid (by decide) (by decide) (onGrid_mul_twoTo (by decide) hfamily 1074) ?_
    calc
      k * unitsPerOne * 5 = 5 * k * unitsPerOne := by rw [Nat.mul_comm 5 k, Nat.mul_right_comm]
      _ ≤ toGrid 53 (units - 3 * unitsPerOne) 1 := hdifference
  refine le_toGrid (by decide) Nat.one_pos (onGrid_mul_twoTo (by decide) hnext 1074) ?_
  rw [Nat.mul_one, Nat.succ_mul]
  exact Nat.add_le_add_right hquotient _

theorem lt_family_iff {k : Nat} {m : Magnitude} (hk : 5 * k + 3 ≤ twoTo 53)
    (hthree : 3 * unitsPerOne ≤ m.units) :
    k < familyUnits m.units / unitsPerOne ↔ (5 * k + 3 : ℚ) ≤ (finite false m).toRat := by
  have hvalue : (5 * k + 3 : ℚ) ≤ (finite false m).toRat ↔
      (5 * k + 3) * unitsPerOne ≤ m.units := by
    have h := le_toRat_iff (s := false) (m := m) (n := 5 * k + 3)
    rw [signed_false] at h
    push_cast at h
    exact_mod_cast h
  rw [hvalue, Nat.lt_iff_add_one_le, Nat.le_div_iff_mul_le unitsPerOne_pos]
  constructor
  · intro h
    by_contra hlt
    exact absurd (familyUnits_lt hk hthree (Nat.not_le.mp hlt)) (Nat.not_lt.mpr h)
  · exact le_familyUnits hk

theorem family_eq_iff {k : Nat} {m : Magnitude} (hk : 5 * (k + 1) + 3 ≤ twoTo 53)
    (hthree : 3 * unitsPerOne ≤ m.units) :
    familyUnits m.units / unitsPerOne = k + 1 ↔
      (5 * k + 3 : ℚ) ≤ (finite false m).toRat ∧ (finite false m).toRat < 5 * k + 8 := by
  have hlow := lt_family_iff (show 5 * k + 3 ≤ twoTo 53 by omega) hthree
  have hhigh := lt_family_iff hk hthree
  have height : (5 * ((k + 1 : Nat) : ℚ) + 3) = 5 * k + 8 := by
    push_cast
    ring
  rw [height, ← not_lt] at hhigh
  rw [← hlow, iff_not_comm.mp hhigh]
  omega

theorem lt_calmBelow_iff {s : Bool} {m : Magnitude} :
    finite s m < calmBelow ↔ (finite s m).toRat < 3 := by
  have h := toRat_lt_iff (s := s) (m := m) (n := 3)
  rw [calmBelow_eq, finite_lt_iff, wholeMagnitude_units, signed_false]
  exact_mod_cast h.symm

theorem classify_eq_calm_iff {x : Binary64} {largest : Int} :
    classify x (.whole largest) = .calm ↔ x.isFinite = true ∧ x.toRat < 3 := by
  cases x with
  | nan => simp [classify_nan, isFinite, Bucket.noData, Bucket.calm]
  | infinite s => simp [classify_infinite, isFinite, Bucket.invalid, Bucket.calm]
  | finite s m =>
    rw [← lt_calmBelow_iff]
    by_cases hcalm : finite s m < calmBelow
    · simp [classify_calm, hcalm, isFinite]
    · obtain ⟨rfl, hthree⟩ := three_le_of_not_lt hcalm
      have hne : classify (finite false m) (.whole largest) ≠ .calm := by
        rw [classify_family largest hthree]
        intro h
        split at h <;> cases h
      exact iff_of_false hne fun h => hcalm h.2

section

variable {largest : Nat} (hmod : largest % 5 = 0) (hlargest : largest ≤ twoTo 52)

include hmod hlargest

theorem classify_eq_invalid_iff {x : Binary64} :
    classify x (.whole largest) = .invalid ↔
      x.isInfinite = true ∨ x.isFinite = true ∧ (largest + 3 : ℚ) ≤ x.toRat := by
  cases x with
  | nan => simp [classify_nan, isFinite, isInfinite, Bucket.noData, Bucket.invalid]
  | infinite s => simp [classify_infinite, isInfinite]
  | finite s m =>
    by_cases hcalm : finite s m < calmBelow
    · have hlow := lt_calmBelow_iff.mp hcalm
      have hlarge : (0 : ℚ) ≤ largest := Nat.cast_nonneg largest
      have hhigh : ¬ (largest + 3 : ℚ) ≤ (finite s m).toRat := by linarith
      simp [classify_calm, hcalm, isInfinite, hhigh, Bucket.calm, Bucket.invalid]
    · obtain ⟨rfl, hthree⟩ := three_le_of_not_lt hcalm
      obtain ⟨k, rfl⟩ : ∃ k, largest = 5 * k := ⟨largest / 5, by omega⟩
      have hbound : twoTo 52 + 3 ≤ twoTo 53 := by decide
      have hiff := lt_family_iff (show 5 * k + 3 ≤ twoTo 53 by omega) hthree
      rw [classify_family _ hthree]
      simp only [isInfinite, isFinite, Bool.false_eq_true, false_or, true_and, Nat.cast_mul,
        Nat.cast_ofNat, ← hiff]
      split
      · simp only [true_iff]
        omega
      · simp only [Bucket.ofFamily, Bucket.invalid, BucketOf.mk.injEq, reduceCtorEq, false_and,
          false_iff]
        omega

theorem classify_eq_family_iff {x : Binary64} {n : Int} :
    classify x (.whole largest) = .ofFamily n ↔
      5 ∣ n ∧ 5 ≤ n ∧ n ≤ largest ∧ x.isFinite = true ∧ (n - 2 : ℚ) ≤ x.toRat ∧
        x.toRat < n + 3 := by
  cases x with
  | nan => simp [classify_nan, isFinite, Bucket.noData, Bucket.ofFamily]
  | infinite s => simp [classify_infinite, isFinite, Bucket.invalid, Bucket.ofFamily]
  | finite s m =>
    by_cases hcalm : finite s m < calmBelow
    · have hlow := lt_calmBelow_iff.mp hcalm
      rw [classify_calm _ hcalm]
      constructor
      · intro h
        cases h
      · rintro ⟨-, hfive, -, -, hle, -⟩
        have hcast : (5 : ℚ) ≤ n := by exact_mod_cast hfive
        linarith
    · obtain ⟨rfl, hthree⟩ := three_le_of_not_lt hcalm
      have hbound : twoTo 52 + 3 ≤ twoTo 53 := by decide
      rw [classify_family _ hthree]
      constructor
      · intro h
        split at h
        · cases h
        · obtain ⟨k, hk⟩ : ∃ k, familyUnits m.units / unitsPerOne = k + 1 := by
            refine Nat.exists_eq_add_one.mpr ?_
            rw [Nat.lt_iff_add_one_le, Nat.le_div_iff_mul_le unitsPerOne_pos]
            simpa using unitsPerOne_le_familyUnits m.units
          obtain ⟨hlow, hhigh⟩ := (family_eq_iff (by omega) hthree).mp hk
          cases h
          rw [hk]
          push_cast
          exact ⟨by omega, by omega, by omega, rfl, by linarith, by linarith⟩
      · rintro ⟨hdvd, hfive, hle, -, hlow, hhigh⟩
        obtain ⟨k, rfl⟩ : ∃ k : Nat, n = 5 * (k + 1) := ⟨(n / 5).toNat - 1, by omega⟩
        push_cast at hlow hhigh
        have hk := (family_eq_iff (k := k) (by omega) hthree).mpr ⟨by linarith, by linarith⟩
        rw [hk, if_neg (by push_cast; omega)]
        push_cast
        rfl

end

theorem Profile.position?_largest (p : Profile) :
    p.dimensions.largest.position? = (Scalar.whole p.largest).position? := by
  have h := p.largest_eq
  unfold Dimensions.largest? at h
  split at h
  · rename_i n hn
    split at h
    · rw [hn, ← Option.some.inj h]
      rfl
    · cases h
  · rename_i s m hm
    dsimp only at h
    split at h
    · rename_i hmultiple
      obtain ⟨hmod, hsign⟩ := hmultiple
      have hunits : m.units / unitsPerOne * unitsPerOne = m.units :=
        Nat.div_mul_cancel (Dvd.intro_left _ hmod.symm)
      have hsigned : signed s m.units = m.units := by
        cases s with
        | false => rfl
        | true =>
          have hzero : m.units = 0 := by rw [← hunits, hsign rfl, Nat.zero_mul]
          rw [hzero]
          rfl
      rw [hm, ← Option.some.inj h]
      simp only [Scalar.position?, Binary64.position?, hsigned, ← Int.natCast_mul, hunits]
    · cases h
  · cases h

theorem classify_congr {a b : Scalar} (h : a.position? = b.position?) (x : Binary64) :
    classify x a = classify x b := by
  have hlt : a.lt = b.lt := by
    funext c
    simp only [Scalar.lt, h]
  simp only [classify, hlt]

/-- Classification cuts the speed line at the exact boundaries, none of which the rounding of its
three steps moves a speed across. -/
theorem Profile.classify_cuts (p : Profile) (hp : p.largest ≤ twoTo 52) (x : Binary64) :
    (classify x p.dimensions.largest = .noData ↔ x.isNaN = true) ∧
      (classify x p.dimensions.largest = .invalid ↔
        x.isInfinite = true ∨ x.isFinite = true ∧ (p.largest + 3 : ℚ) ≤ x.toRat) ∧
      (classify x p.dimensions.largest = .calm ↔ x.isFinite = true ∧ x.toRat < 3) ∧
      (∀ n : Int, classify x p.dimensions.largest = .ofFamily n ↔
        5 ∣ n ∧ 5 ≤ n ∧ n ≤ p.largest ∧
          x.isFinite = true ∧ (n - 2 : ℚ) ≤ x.toRat ∧ x.toRat < n + 3) ∧
      ∀ s : SymbolSet, s.profile = p → s.classify x = classify x p.dimensions.largest := by
  have hwhole := classify_congr p.position?_largest x
  rw [hwhole]
  refine ⟨?_, classify_eq_invalid_iff p.largest_mod hp, classify_eq_calm_iff,
    fun n => classify_eq_family_iff p.largest_mod hp, ?_⟩
  · rw [classify_eq_noData_iff]
    cases x <;> simp [isNaN]
  · rintro s rfl
    rfl

/-- The number before 103 is still in the family of a hundred knots. -/
theorem classify_cuts_standard :
    Profile.standard.largest ≤ twoTo 52 ∧
      classify (103 - ofRatio false 1 (twoTo 46)) Profile.standard.dimensions.largest =
        .ofFamily 100 ∧
      classify 103 Profile.standard.dimensions.largest = .invalid := by
  have hlargest : Profile.standard.largest ≤ twoTo 52 := by decide
  have hbelow := (Profile.standard.classify_cuts hlargest
    (103 - ofRatio false 1 (twoTo 46))).2.2.2.1 100
  have habove := (Profile.standard.classify_cuts hlargest 103).2.1
  refine ⟨hlargest, hbelow.mpr ?_, habove.mpr (.inr ?_)⟩
  · decide +kernel
  · decide +kernel

end WindSymbols
