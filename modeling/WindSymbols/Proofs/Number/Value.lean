import WindSymbols.Proofs.Number.Equality
import WindSymbols.Proofs.Number.Interval
import Mathlib.Algebra.Order.Field.Basic
import Mathlib.Algebra.Order.Field.Rat
import Mathlib.Data.Int.CharZero

/-! Exact values of double precision numbers. The value of a finite number is its signed count of
units over the units in one (`toRat_finite`), and it is compared with a whole number unit by unit
(`toRat_lt_iff`, `le_toRat_iff`). -/

namespace WindSymbols.Binary64

theorem unitsPerOne_cast_pos : (0 : ℚ) < unitsPerOne := Nat.cast_pos.mpr unitsPerOne_pos

theorem toRat_finite (s : Bool) (m : Magnitude) :
    (finite s m).toRat = (signed s m.units : ℚ) / unitsPerOne :=
  Rat.mkRat_eq_div _ _

theorem toRat_lt_iff {s : Bool} {m : Magnitude} {n : ℤ} :
    (finite s m).toRat < n ↔ signed s m.units < n * unitsPerOne := by
  rw [toRat_finite, div_lt_iff₀ unitsPerOne_cast_pos]
  exact_mod_cast Iff.rfl

theorem le_toRat_iff {s : Bool} {m : Magnitude} {n : ℤ} :
    n ≤ (finite s m).toRat ↔ n * unitsPerOne ≤ signed s m.units := by
  rw [← not_lt, toRat_lt_iff, Int.not_lt]

theorem toRat_neg {a : Binary64} : (-a).toRat = -a.toRat := by
  change (neg a).toRat = _
  cases a with
  | nan => rfl
  | infinite s => rfl
  | finite s m =>
    rw [neg, toRat_finite, toRat_finite, signed_not, Int.cast_neg, neg_div]

theorem same_eq_decide {a b : Binary64} (ha : a.isFinite = true) (hb : b.isFinite = true) :
    a.same b = decide (a.toRat = b.toRat) := by
  obtain ⟨s, m, rfl⟩ := exists_eq_finite ha
  obtain ⟨t, n, rfl⟩ := exists_eq_finite hb
  rw [Bool.eq_iff_iff, decide_eq_true_iff, toRat_finite, toRat_finite,
    div_left_inj' unitsPerOne_cast_pos.ne', Int.cast_inj]
  simp [Binary64.same, position?]

theorem lt_eq_decide {a b : Binary64} (ha : a.isFinite = true) (hb : b.isFinite = true) :
    a.lt b = decide (a.toRat < b.toRat) := by
  obtain ⟨s, m, rfl⟩ := exists_eq_finite ha
  obtain ⟨t, n, rfl⟩ := exists_eq_finite hb
  rw [Bool.eq_iff_iff, decide_eq_true_iff, toRat_finite, toRat_finite,
    div_lt_div_iff_of_pos_right unitsPerOne_cast_pos, Int.cast_lt]
  exact finite_lt_iff

end WindSymbols.Binary64
