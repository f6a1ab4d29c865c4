import WindSymbols.Proofs.Number.Interval
import WindSymbols.Wind.Bucket

/-! Which buckets a speed can be put into. Every finite speed from three knots on has a family,
which is a positive multiple of five (`familyOf?_eq`, `familyOf?_eq_some`). With a largest family
the result is calm, invalid, a family up to the largest (`classify_cases`), or no data, for NaN
alone (`classify_eq_noData_iff`). -/

namespace WindSymbols

open Rounding Binary64

theorem calmBelow_eq : calmBelow = finite false (wholeMagnitude 3 (by decide)) := by
  unfold calmBelow
  exact literal_eq (by decide)

theorem five_eq : (5 : Binary64) = finite false (wholeMagnitude 5 (by decide)) :=
  literal_eq (by decide)

theorem one_eq : (1 : Binary64) = finite false (wholeMagnitude 1 (by decide)) :=
  literal_eq (by decide)

theorem three_le_of_not_lt {s : Bool} {m : Magnitude} (h : ¬ finite s m < calmBelow) :
    s = false ∧ 3 * unitsPerOne ≤ m.units := by
  rw [calmBelow_eq, finite_lt_iff, wholeMagnitude_units, signed_false] at h
  have hone := unitsPerOne_pos
  cases s with
  | false =>
    rw [signed_false] at h
    exact ⟨rfl, by omega⟩
  | true =>
    rw [signed_true] at h
    omega

/-- The units of the number that a family is five times the floor of. The difference, the quotient
and the sum behind it are rounded one after the other. -/
def familyUnits (units : Nat) : Nat :=
  toGrid 53 (toGrid 53 (toGrid 53 (units - 3 * unitsPerOne) 1) 5 + unitsPerOne) 1

theorem unitsPerOne_le_familyUnits (units : Nat) : unitsPerOne ≤ familyUnits units :=
  le_toGrid (by decide) Nat.one_pos onGrid_unitsPerOne (by omega)

theorem familyUnits_mono {a b : Nat} (h : a ≤ b) : familyUnits a ≤ familyUnits b := by
  have hdifference : toGrid 53 (a - 3 * unitsPerOne) 1 ≤ toGrid 53 (b - 3 * unitsPerOne) 1 :=
    toGrid_mono_left (by decide) Nat.one_pos (Nat.sub_le_sub_right h _)
  have hquotient := toGrid_mono_left (by decide : 0 < 53) (by decide : 0 < 5) hdifference
  exact toGrid_mono_left (by decide) Nat.one_pos (Nat.add_le_add_right hquotient _)

theorem familyOf?_eq {m : Magnitude} (h : 3 * unitsPerOne ≤ m.units) :
    familyOf? (finite false m) = some (5 * ((familyUnits m.units / unitsPerOne : Nat) : Int)) := by
  obtain ⟨d, hd, hdu, hdm⟩ : ∃ d, finite false m - calmBelow = finite false d ∧
      d.units = toGrid 53 (m.units - 3 * unitsPerOne) 1 ∧ d.units ≤ m.units := by
    have hle : toGrid 53 (m.units - 3 * unitsPerOne) 1 ≤ m.units :=
      toGrid_le Nat.one_pos m.onGrid (by omega)
    have hthree : (wholeMagnitude 3 (by decide)).units ≤ m.units := h
    rw [calmBelow_eq, sub_eq hthree, wholeMagnitude_units]
    exact ⟨_, ofUnits_finite false (Nat.lt_of_le_of_lt hle m.lt_limit), rfl, hle⟩
  obtain ⟨q, hq, hqu, hqb⟩ : ∃ q, finite false d / 5 = finite false q ∧
      q.units = toGrid 53 d.units 5 ∧ q.units ≤ twoTo 2096 := by
    have hlim : m.units < twoTo 2098 := m.lt_limit
    have hfour : twoTo 2098 = 4 * twoTo 2096 := by decide +kernel
    have hle : toGrid 53 d.units 5 ≤ twoTo 2096 := toGrid_le (by decide) onGrid_pow (by omega)
    have hfive : 0 < (wholeMagnitude 5 (by decide)).units :=
      Nat.mul_pos (by decide) unitsPerOne_pos
    have hscale := toGrid_scale 53 d.units 5 unitsPerOne_pos
    rw [← hscale] at hle ⊢
    rw [five_eq, div_eq hfive, wholeMagnitude_units]
    exact ⟨_, ofUnits_finite false (Nat.lt_of_le_of_lt hle (by decide +kernel)), rfl, hle⟩
  obtain ⟨t, ht, htu⟩ : ∃ t, finite false q + 1 = finite false t ∧
      t.units = toGrid 53 (q.units + unitsPerOne) 1 := by
    have hsum : signed false q.units + signed false (wholeMagnitude 1 (by decide)).units =
        (q.units + unitsPerOne : Nat) := by
      rw [signed_false, signed_false, wholeMagnitude_units, Nat.one_mul, ← Int.natCast_add]
    have htwo : twoTo 2096 + unitsPerOne ≤ twoTo 2097 := by decide +kernel
    have hle : toGrid 53 (q.units + unitsPerOne) 1 ≤ twoTo 2097 :=
      toGrid_le Nat.one_pos onGrid_pow (by omega)
    rw [one_eq, add_eq hsum]
    exact ⟨_, ofUnits_finite false (Nat.lt_of_le_of_lt hle (by decide +kernel)), rfl⟩
  rw [familyOf?, hd, hq, ht, familyUnits, ← hdu, ← hqu, ← htu]
  simp only [floor?, signed_false, Option.map_some, Int.natCast_ediv]

theorem familyOf?_eq_some {x : Binary64} (hx : x.isFinite = true) (h : ¬ x < calmBelow) :
    ∃ n : Nat, 1 ≤ n ∧ familyOf? x = some (5 * (n : Int)) := by
  obtain ⟨s, m, rfl⟩ : ∃ s m, x = finite s m := by
    cases x <;> simp_all [isFinite]
  obtain ⟨rfl, hthree⟩ := three_le_of_not_lt h
  refine ⟨familyUnits m.units / unitsPerOne, ?_, familyOf?_eq hthree⟩
  rw [Nat.le_div_iff_mul_le unitsPerOne_pos, Nat.one_mul]
  exact unitsPerOne_le_familyUnits m.units

theorem whole_lt_whole (a b : Int) : (Scalar.whole a).lt (.whole b) = decide (a < b) := by
  have hone : (0 : Int) < unitsPerOne := Int.natCast_pos.mpr unitsPerOne_pos
  have hiff : a * (unitsPerOne : Int) < b * unitsPerOne ↔ a < b := Int.mul_lt_mul_right hone
  simp only [Scalar.lt, Scalar.position?, Position.lt, hiff]

theorem classify_nan (largest : Scalar) : classify .nan largest = .noData := rfl

theorem classify_infinite (s : Bool) (largest : Scalar) :
    classify (.infinite s) largest = .invalid := rfl

theorem classify_calm {s : Bool} {m : Magnitude} (largest : Scalar) (h : finite s m < calmBelow) :
    classify (finite s m) largest = .calm := by
  simp [classify, isNaN, isInfinite, h]

theorem classify_family {m : Magnitude} (largest : Int) (h : 3 * unitsPerOne ≤ m.units) :
    classify (finite false m) (.whole largest) =
      if largest < 5 * ((familyUnits m.units / unitsPerOne : Nat) : Int) then .invalid
      else .ofFamily (5 * ((familyUnits m.units / unitsPerOne : Nat) : Int)) := by
  have hcalm : ¬ finite false m < calmBelow := by
    rw [calmBelow_eq, finite_lt_iff, wholeMagnitude_units, signed_false, signed_false]
    omega
  simp only [classify, isNaN, isInfinite, hcalm, familyOf?_eq h, whole_lt_whole,
    decide_eq_true_eq, if_false, Bool.false_eq_true]

theorem classify_eq_noData_iff {x : Binary64} {largest : Scalar} :
    classify x largest = .noData ↔ x = .nan := by
  constructor
  · intro h
    cases x with
    | nan => rfl
    | infinite s => cases h
    | finite s m =>
      simp only [classify, isNaN, isInfinite, Bool.false_eq_true, if_false] at h
      repeat' split at h
      all_goals cases h
  · rintro rfl
    exact classify_nan largest

/-- A classified speed is a sentinel, or a family that is no larger than the largest. -/
theorem classify_cases (x : Binary64) (largest : Int) :
    classify x (.whole largest) = .noData ∨ classify x (.whole largest) = .invalid ∨
      classify x (.whole largest) = .calm ∨
      ∃ n : Nat, 1 ≤ n ∧ 5 * (n : Int) ≤ largest ∧
        classify x (.whole largest) = .ofFamily (5 * (n : Int)) := by
  cases x with
  | nan => exact .inl (classify_nan _)
  | infinite s => exact .inr (.inl (classify_infinite s _))
  | finite s m =>
    by_cases hcalm : finite s m < calmBelow
    · exact .inr (.inr (.inl (classify_calm _ hcalm)))
    obtain ⟨rfl, hthree⟩ := three_le_of_not_lt hcalm
    rw [classify_family largest hthree]
    split
    · exact .inr (.inl rfl)
    · refine .inr (.inr (.inr ⟨_, ?_, Int.not_lt.mp ‹_›, rfl⟩))
      rw [Nat.le_div_iff_mul_le unitsPerOne_pos, Nat.one_mul]
      exact unitsPerOne_le_familyUnits m.units

end WindSymbols
