import WindSymbols.Proofs.Number.Equality

/-! Order of double precision values, and products with a positive factor. Such a product is NaN
only for NaN and leaves the infinities as they are (`mul_eq_nan_iff`, `infinite_mul`). From zero on
it keeps the order of values, where it underflows and where it goes beyond the largest number too
(`mul_atMost_mul`). -/

namespace WindSymbols.Binary64

open Rounding

/-- Order of values. NaN has no place in it, and both zeros are one value. -/
def AtMost (a b : Binary64) : Prop := a < b ∨ a.same b = true

theorem atMost_iff {a b : Binary64} :
    a.AtMost b ↔ ∃ p q, a.position? = some p ∧ b.position? = some q ∧ (p.lt q = true ∨ p = q) := by
  change a.lt b = true ∨ a.same b = true ↔ _
  unfold Binary64.lt Binary64.same
  cases a.position? <;> cases b.position? <;> simp

theorem AtMost.ne_nan {a b : Binary64} (h : a.AtMost b) : b ≠ nan := by
  rintro rfl
  obtain ⟨p, q, -, hq, -⟩ := atMost_iff.mp h
  cases hq

theorem AtMost.trans {a b c : Binary64} (hab : a.AtMost b) (hbc : b.AtMost c) : a.AtMost c := by
  obtain ⟨p, q, hp, hq, hpq⟩ := atMost_iff.mp hab
  obtain ⟨q', r, hq', hr, hqr⟩ := atMost_iff.mp hbc
  rw [hq] at hq'
  cases hq'
  refine atMost_iff.mpr ⟨p, r, hp, hr, ?_⟩
  cases p <;> cases q <;> cases r <;> simp_all [Position.lt]
  omega

theorem finite_atMost_iff {s t : Bool} {a b : Magnitude} :
    (finite s a).AtMost (finite t b) ↔ signed s a.units ≤ signed t b.units := by
  rw [AtMost, finite_lt_iff, same_iff]
  simp only [position?, Option.some.injEq, exists_eq_left', Position.at.injEq]
  omega

theorem zero_atMost_finite {s : Bool} {m : Magnitude} :
    (0 : Binary64).AtMost (finite s m) ↔ 0 ≤ signed s m.units := by
  rw [literal_eq (Nat.zero_le _), finite_atMost_iff, wholeMagnitude_units, Nat.zero_mul]
  rfl

theorem eq_infinite_of_atMost {x : Binary64} (h : (infinite false).AtMost x) :
    x = infinite false := by
  obtain ⟨p, q, hp, hq, hpq⟩ := atMost_iff.mp h
  cases hp
  cases x with
  | nan => cases hq
  | infinite s =>
    cases hq
    cases s with
    | false => rfl
    | true => simp [Position.lt] at hpq
  | finite s m =>
    cases hq
    simp [Position.lt] at hpq

theorem zero_atMost_cases {x : Binary64} (h : (0 : Binary64).AtMost x) :
    (∃ s m, x = finite s m ∧ m.units = 0) ∨ (∃ m, x = finite false m ∧ 0 < m.units) ∨
      x = infinite false := by
  obtain ⟨p, q, hp, hq, hpq⟩ := atMost_iff.mp h
  rw [zero_position] at hp
  cases hp
  cases x with
  | nan => cases hq
  | infinite s =>
    cases hq
    cases s with
    | false => exact .inr (.inr rfl)
    | true => simp [Position.lt] at hpq
  | finite s m =>
    rw [zero_atMost_finite] at h
    rcases Nat.eq_zero_or_pos m.units with hzero | hpos
    · exact .inl ⟨s, m, rfl, hzero⟩
    · cases s with
      | false => exact .inr (.inl ⟨m, rfl, hpos⟩)
      | true =>
        rw [signed_true] at h
        omega

theorem AtMost.infinite {x : Binary64} (h : (0 : Binary64).AtMost x) :
    x.AtMost (.infinite false) := by
  rcases zero_atMost_cases h with ⟨s, m, rfl, -⟩ | ⟨m, rfl, -⟩ | rfl
  · exact atMost_iff.mpr ⟨_, _, rfl, rfl, .inl rfl⟩
  · exact atMost_iff.mpr ⟨_, _, rfl, rfl, .inl rfl⟩
  · exact atMost_iff.mpr ⟨_, _, rfl, rfl, .inr rfl⟩

theorem ofUnits_ne_nan (s : Bool) (num den : Nat) : ofUnits s num den ≠ nan := by
  intro h
  unfold ofUnits at h
  dsimp only at h
  split at h <;> cases h

theorem zero_atMost_ofUnits (num den : Nat) : (0 : Binary64).AtMost (ofUnits false num den) := by
  by_cases h : toGrid 53 num den < unitsLimit
  · rw [ofUnits_finite false h, zero_atMost_finite, signed_false]
    exact Int.natCast_nonneg _
  · rw [ofUnits_infinite false (Nat.le_of_not_lt h)]
    exact atMost_iff.mpr ⟨_, _, zero_position, rfl, .inl rfl⟩

theorem ofUnits_atMost {a b c d : Nat} (hb : 0 < b) (hd : 0 < d) (h : a * d ≤ c * b) :
    (ofUnits false a b).AtMost (ofUnits false c d) := by
  have hgrid : toGrid 53 a b ≤ toGrid 53 c d := toGrid_mono (by decide) hb hd h
  by_cases hc : toGrid 53 c d < unitsLimit
  · rw [ofUnits_finite false hc, ofUnits_finite false (Nat.lt_of_le_of_lt hgrid hc),
      finite_atMost_iff]
    exact Int.ofNat_le.mpr hgrid
  · rw [ofUnits_infinite false (Nat.le_of_not_lt hc)]
    exact (zero_atMost_ofUnits a b).infinite

def IsPositive (x : Binary64) : Prop := ∃ m : Magnitude, x = finite false m ∧ 0 < m.units

section Product

variable {a b f : Binary64} (hf : f.IsPositive)

include hf

theorem infinite_mul (s : Bool) : infinite s * f = infinite s := by
  obtain ⟨m, rfl, hm⟩ := hf
  have hne : m.units ≠ 0 := by omega
  change mul (infinite s) (finite false m) = _
  simp only [mul, hne, if_false, Bool.bne_false]

theorem mul_of_zero {s : Bool} {m : Magnitude} (hm : m.units = 0) :
    finite s m * f = finite s .zero := by
  obtain ⟨n, rfl, -⟩ := hf
  rw [mul_eq, hm, Nat.zero_mul, ofUnits_zero _ unitsPerOne_pos, Bool.bne_false]

theorem mul_eq_nan_iff : a * f = nan ↔ a = nan := by
  cases a with
  | nan => exact ⟨fun _ => rfl, fun _ => rfl⟩
  | infinite s => simp [infinite_mul hf s]
  | finite s n =>
    obtain ⟨m, rfl, -⟩ := hf
    rw [mul_eq]
    exact ⟨fun h => absurd h (ofUnits_ne_nan _ _ _), nofun⟩

theorem zero_atMost_mul (ha : (0 : Binary64).AtMost a) : (0 : Binary64).AtMost (a * f) := by
  rcases zero_atMost_cases ha with ⟨s, m, rfl, hm⟩ | ⟨m, rfl, -⟩ | rfl
  · rw [mul_of_zero hf hm, zero_atMost_finite]
    cases s <;> exact Int.le_refl 0
  · obtain ⟨n, rfl, -⟩ := hf
    rw [mul_eq]
    exact zero_atMost_ofUnits _ _
  · rwa [infinite_mul hf]

/-- A product with a positive factor keeps the order of values from zero on. -/
theorem mul_atMost_mul (ha : (0 : Binary64).AtMost a) (hab : a.AtMost b) :
    (a * f).AtMost (b * f) := by
  have hb := ha.trans hab
  rcases zero_atMost_cases ha with ⟨s, m, rfl, hm⟩ | ⟨m, rfl, hm⟩ | rfl
  · -- both zeros are below whatever is not negative
    have hzero : (finite s .zero).AtMost 0 := by
      rw [literal_eq (Nat.zero_le _), finite_atMost_iff]
      cases s <;> decide
    rw [mul_of_zero hf hm]
    exact hzero.trans (zero_atMost_mul hf hb)
  · rcases zero_atMost_cases hb with ⟨t, n, rfl, hn⟩ | ⟨n, rfl, -⟩ | rfl
    · rw [finite_atMost_iff, hn] at hab
      cases t <;> simp [signed] at hab <;> omega
    · obtain ⟨k, rfl, -⟩ := hf
      rw [mul_eq, mul_eq]
      refine ofUnits_atMost unitsPerOne_pos unitsPerOne_pos (Nat.mul_le_mul_right _ ?_)
      exact Nat.mul_le_mul_right _ (Int.ofNat_le.mp (finite_atMost_iff.mp hab))
    · rw [infinite_mul hf]
      exact (zero_atMost_mul hf ha).infinite
  · rw [eq_infinite_of_atMost hab, infinite_mul hf]
    exact ha.infinite

end Product

end WindSymbols.Binary64
