import WindSymbols.Number.Single
import WindSymbols.Proofs.Number.Grid

/-! Results of double precision operations. A result that is not beyond the largest number is finite
(`ofUnits_finite`). Operations on finite numbers are rounded from the exact values (`add_eq`,
`sub_eq`, `mul_eq`, `div_eq`), and small whole numbers are exact (`ofNat_eq`). -/

namespace WindSymbols.Binary64

open Rounding

theorem unitsPerOne_pos : 0 < unitsPerOne := twoTo_pos 1074

def wholeMagnitude (n : Nat) (h : n ≤ twoTo 53) : Magnitude where
  units := n * unitsPerOne
  onGrid := onGrid_mul_twoTo (by decide) h 1074
  lt_limit := by
    calc
      n * unitsPerOne ≤ twoTo 53 * unitsPerOne := Nat.mul_le_mul_right _ h
      _ < unitsLimit := by decide +kernel

@[simp] theorem wholeMagnitude_units (n : Nat) (h : n ≤ twoTo 53) :
    (wholeMagnitude n h).units = n * unitsPerOne := rfl

theorem ofNat_eq {n : Nat} (h : n ≤ twoTo 53) : ofNat n = finite false (wholeMagnitude n h) :=
  ofUnits_one false (wholeMagnitude n h).lt_limit (wholeMagnitude n h).onGrid

theorem literal_eq {n : Nat} (h : n ≤ twoTo 53) :
    (OfNat.ofNat n : Binary64) = finite false (wholeMagnitude n h) :=
  ofNat_eq h

theorem ofUnits_finite {num den : Nat} (s : Bool) (h : toGrid 53 num den < unitsLimit) :
    ofUnits s num den = finite s ⟨toGrid 53 num den, onGrid_toGrid (by decide) num den, h⟩ := by
  rw [ofUnits]
  exact dif_pos h

theorem ofUnits_eq_finite_iff {s t : Bool} {num den : Nat} {m : Magnitude} :
    ofUnits s num den = finite t m ↔ t = s ∧ toGrid 53 num den = m.units := by
  by_cases h : toGrid 53 num den < unitsLimit
  · rw [ofUnits_finite s h]
    constructor
    · intro heq
      cases heq
      exact ⟨rfl, rfl⟩
    · rintro ⟨rfl, hm⟩
      simp only [hm]
  · have hlim := m.lt_limit
    rw [ofUnits, dif_neg h]
    simp only [reduceCtorEq, false_iff]
    omega

theorem ofUnits_zero (s : Bool) {den : Nat} (hd : 0 < den) :
    ofUnits s 0 den = finite s .zero := by
  have h := toGrid_mul (onGrid_zero 53) hd
  rw [Nat.zero_mul] at h
  exact ofUnits_eq_finite_iff.mpr ⟨rfl, h⟩

theorem ofUnits_infinite {num den : Nat} (s : Bool) (h : unitsLimit ≤ toGrid 53 num den) :
    ofUnits s num den = infinite s := by
  rw [ofUnits]
  exact dif_neg (Nat.not_lt.mpr h)

theorem onGrid_pow {k : Nat} : OnGrid 53 (twoTo k) := by
  have h : OnGrid 53 (1 * twoTo k) := onGrid_mul_twoTo (by decide) (by decide) k
  rwa [Nat.one_mul] at h

theorem onGrid_unitsPerOne : OnGrid 53 unitsPerOne := by
  unfold unitsPerOne
  exact onGrid_pow

@[simp] theorem signed_false (units : Nat) : signed false units = units := rfl

@[simp] theorem signed_true (units : Nat) : signed true units = -(units : Int) := rfl

theorem finite_lt_iff {s t : Bool} {a b : Magnitude} :
    finite s a < finite t b ↔ signed s a.units < signed t b.units := by
  change (finite s a).lt (finite t b) = true ↔ _
  simp [Binary64.lt, position?, Position.lt]

/-- A sum that is not negative is rounded from its exact value, as if it had no sign. -/
theorem add_eq {t : Bool} {a b : Magnitude} {n : Nat}
    (hsum : signed false a.units + signed t b.units = n) :
    finite false a + finite t b = ofUnits false n 1 := by
  change add (finite false a) (finite t b) = _
  simp only [add, hsum]
  by_cases hzero : n = 0
  · subst hzero
    rw [if_pos Int.natCast_zero, Bool.false_and, ofUnits_zero false Nat.one_pos]
  · have hneg : ¬ (n : Int) < 0 := by omega
    have hne : (n : Int) ≠ 0 := by omega
    rw [if_neg hne, decide_eq_false hneg, Int.natAbs_natCast]

theorem sub_eq {a b : Magnitude} (h : b.units ≤ a.units) :
    finite false a - finite false b = ofUnits false (a.units - b.units) 1 := by
  have hsum : signed false a.units + signed true b.units = (a.units - b.units : Nat) := by
    simp only [signed_false, signed_true]
    omega
  exact add_eq hsum

theorem mul_eq (s t : Bool) (a b : Magnitude) :
    finite s a * finite t b = ofUnits (s != t) (a.units * b.units) unitsPerOne := by
  change mul (finite s a) (finite t b) = _
  simp only [mul]

theorem div_eq {a b : Magnitude} (hb : 0 < b.units) :
    finite false a / finite false b = ofUnits false (a.units * unitsPerOne) b.units := by
  have hne : b.units ≠ 0 := by omega
  change div (finite false a) (finite false b) = _
  simp only [div, hne, if_false, bne_self_eq_false]

end WindSymbols.Binary64
