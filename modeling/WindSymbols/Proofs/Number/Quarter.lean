import WindSymbols.Proofs.Number.Value
import Mathlib.Tactic.LinearCombination
import Mathlib.Tactic.NormNum
import Mathlib.Tactic.Ring

/-! Whole numbers of quarters. With at most 53 binary digits they are double precision numbers, so an
operation whose exact result is one of them does not round (`Exactly.add`, `Exactly.div`). A whole
number of halves loses its fraction toward zero (`Exactly.truncate_eq`). Whole numbers of 50 digits
leave room for a sum of a few of them (`IsSmall`). -/

namespace WindSymbols

open Rounding

def IsSmall (n : ℤ) : Prop := |n| < 2 ^ 50

instance : DecidablePred IsSmall := fun n => inferInstanceAs (Decidable (|n| < 2 ^ 50))

theorem IsSmall.bounds {n : ℤ} (h : IsSmall n) : -2 ^ 50 < n ∧ n < 2 ^ 50 := abs_lt.mp h

namespace Binary64

structure Exactly (x : Binary64) (q : ℚ) : Prop where
  isFinite : x.isFinite = true
  toRat_eq : x.toRat = q

/-- A value that is so many quarters, and is no more than 53 binary digits long. -/
structure Quarters (q : ℚ) (k : ℤ) : Prop where
  eq_div : q = k / 4
  abs_le : |k| ≤ 2 ^ 53

def unitsPerQuarter : Nat := twoTo 1072

theorem unitsPerQuarter_pos : 0 < unitsPerQuarter := twoTo_pos 1072

theorem unitsPerOne_eq : unitsPerOne = 4 * unitsPerQuarter := by
  have hfour : 4 = twoTo 2 := rfl
  rw [hfour, unitsPerQuarter, ← twoTo_add, unitsPerOne]

theorem unitsPerOne_cast : (unitsPerOne : ℚ) = 4 * unitsPerQuarter := by
  rw [unitsPerOne_eq, Nat.cast_mul, Nat.cast_ofNat]

def quarters (k : Nat) (h : k ≤ twoTo 53) : Magnitude where
  units := k * unitsPerQuarter
  onGrid := onGrid_mul_twoTo (by decide) h 1072
  lt_limit := by
    calc
      k * unitsPerQuarter ≤ twoTo 53 * unitsPerQuarter := Nat.mul_le_mul_right _ h
      _ < unitsLimit := by decide +kernel

theorem signed_mul (s : Bool) (a b : Nat) : signed s (a * b) = signed s a * b := by
  cases s <;> simp

theorem signed_natAbs (n : ℤ) : signed (decide (n < 0)) n.natAbs = n := by
  by_cases h : n < 0
  · rw [decide_eq_true h, signed_true]
    omega
  · rw [decide_eq_false h, signed_false]
    omega

theorem natAbs_signed (s : Bool) (units : Nat) : (signed s units).natAbs = units := by
  cases s <;> simp

theorem mul_natCast_neg_iff {k : ℤ} {c : Nat} (hc : 0 < c) : k * (c : ℤ) < 0 ↔ k < 0 := by
  have hpos : (0 : ℤ) < c := Int.natCast_pos.mpr hc
  constructor
  · intro h
    by_contra hk
    have := Int.mul_nonneg (Int.not_lt.mp hk) hpos.le
    omega
  · exact fun h => Int.mul_neg_of_neg_of_pos h hpos

theorem exactly_finite_iff {s : Bool} {m : Magnitude} {q : ℚ} :
    (finite s m).Exactly q ↔ (signed s m.units : ℚ) = q * unitsPerOne := by
  have hvalue : (finite s m).toRat = q ↔ (signed s m.units : ℚ) = q * unitsPerOne := by
    rw [toRat_finite, div_eq_iff unitsPerOne_cast_pos.ne']
  constructor
  · exact fun h => hvalue.mp h.toRat_eq
  · exact fun h => ⟨rfl, hvalue.mpr h⟩

theorem Exactly.exists_finite {x : Binary64} {q : ℚ} (h : x.Exactly q) :
    ∃ s m, x = finite s m ∧ (signed s m.units : ℚ) = q * unitsPerOne := by
  obtain ⟨s, m, rfl⟩ := exists_eq_finite h.isFinite
  exact ⟨s, m, rfl, exactly_finite_iff.mp h⟩

theorem Quarters.mul_unitsPerOne {q : ℚ} {k : ℤ} (h : Quarters q k) :
    q * unitsPerOne = (k * unitsPerQuarter : ℤ) := by
  rw [h.eq_div, unitsPerOne_cast]
  push_cast
  ring

/-- Rounding leaves a whole number of quarters as it is. -/
theorem ofUnits_exactly {s : Bool} {num den : Nat} {q : ℚ} {k : ℤ} (hq : Quarters q k)
    (hd : 0 < den) (hsign : signed s k.natAbs = k)
    (hnum : num = k.natAbs * unitsPerQuarter * den) : (ofUnits s num den).Exactly q := by
  have hsmall : k.natAbs ≤ twoTo 53 := by
    have htwo : ((twoTo 53 : Nat) : ℤ) = 2 ^ 53 := by norm_num [twoTo]
    have hle := hq.abs_le
    rw [Int.abs_eq_natAbs] at hle
    omega
  have hrounded : ofUnits s num den = finite s (quarters k.natAbs hsmall) :=
    ofUnits_eq_finite_iff.mpr ⟨rfl, by rw [hnum]; exact toGrid_mul (quarters _ hsmall).onGrid hd⟩
  rw [hrounded, exactly_finite_iff, hq.mul_unitsPerOne, quarters, signed_mul, hsign]

theorem signed_quotient {s : Bool} {a b : Nat} {k : ℤ} (hb : 0 < b)
    (h : signed s a * 4 = k * b) : signed s k.natAbs = k ∧ a * 4 = k.natAbs * b := by
  have habs : a * 4 = k.natAbs * b := by
    have := congrArg Int.natAbs h
    rw [Int.natAbs_mul, Int.natAbs_mul, natAbs_signed] at this
    exact this
  refine ⟨?_, habs⟩
  cases s with
  | false =>
    have hle : ¬ k * (b : ℤ) < 0 := by
      rw [← h, signed_false]
      omega
    rw [mul_natCast_neg_iff hb] at hle
    rw [signed_false]
    omega
  | true =>
    have hle : ¬ -k * (b : ℤ) < 0 := by
      rw [Int.neg_mul, ← h, signed_true]
      omega
    rw [mul_natCast_neg_iff hb] at hle
    rw [signed_true]
    omega

theorem ofUnits_quotient {s : Bool} {a b : Nat} {q : ℚ} {k : ℤ} (hq : Quarters q k) (hb : 0 < b)
    (h : signed s a * 4 = k * b) : (ofUnits s (a * unitsPerOne) b).Exactly q := by
  obtain ⟨hsign, hparts⟩ := signed_quotient hb h
  refine ofUnits_exactly hq hb hsign ?_
  rw [unitsPerOne_eq, ← Nat.mul_assoc, hparts]
  exact Nat.mul_right_comm ..

theorem Exactly.add {x y : Binary64} {p q : ℚ} {k : ℤ} (hx : x.Exactly p) (hy : y.Exactly q)
    (hk : Quarters (p + q) k) : (x + y).Exactly (p + q) := by
  obtain ⟨s, m, rfl, hm⟩ := hx.exists_finite
  obtain ⟨t, n, rfl, hn⟩ := hy.exists_finite
  have hpos := unitsPerQuarter_pos
  have hsum : signed s m.units + signed t n.units = k * unitsPerQuarter := by
    have hcast : ((signed s m.units + signed t n.units : ℤ) : ℚ) = (k * unitsPerQuarter : ℤ) := by
      rw [Int.cast_add, hm, hn, ← add_mul, hk.mul_unitsPerOne]
    exact_mod_cast hcast
  have hadd : finite s m + finite t n =
      if k * (unitsPerQuarter : ℤ) = 0 then finite (s && t) .zero
      else ofUnits (decide (k * (unitsPerQuarter : ℤ) < 0))
        (k * (unitsPerQuarter : ℤ)).natAbs 1 := by
    rw [← hsum]
    rfl
  rw [hadd]
  split
  · rename_i hzero
    rw [exactly_finite_iff, hk.mul_unitsPerOne, hzero]
    exact congrArg Int.cast (signed_zero _)
  · have hsign : k * (unitsPerQuarter : ℤ) < 0 ↔ k < 0 := mul_natCast_neg_iff hpos
    refine ofUnits_exactly hk Nat.one_pos ?_ ?_
    · rw [decide_eq_decide.mpr hsign, signed_natAbs]
    · rw [Int.natAbs_mul, Int.natAbs_natCast, Nat.mul_one]

theorem Exactly.neg {x : Binary64} {q : ℚ} (h : x.Exactly q) : (-x).Exactly (-q) := by
  obtain ⟨s, m, rfl, -⟩ := h.exists_finite
  exact ⟨rfl, by rw [toRat_neg, h.toRat_eq]⟩

theorem Exactly.sub {x y : Binary64} {p q : ℚ} {k : ℤ} (hx : x.Exactly p) (hy : y.Exactly q)
    (hk : Quarters (p - q) k) : (x - y).Exactly (p - q) := by
  rw [sub_eq_add_neg] at hk ⊢
  exact hx.add hy.neg hk

theorem Exactly.div {x y : Binary64} {p q : ℚ} {k : ℤ} (hx : x.Exactly p) (hy : y.Exactly q)
    (hq : 0 < q) (hk : Quarters (p / q) k) : (x / y).Exactly (p / q) := by
  obtain ⟨s, m, rfl, hm⟩ := hx.exists_finite
  obtain ⟨t, n, rfl, hn⟩ := hy.exists_finite
  have hpos : 0 < signed t n.units := by
    have hcast : (0 : ℚ) < signed t n.units := by
      rw [hn]
      exact mul_pos hq unitsPerOne_cast_pos
    exact_mod_cast hcast
  obtain rfl : t = false := by
    cases t with
    | false => rfl
    | true =>
      rw [signed_true] at hpos
      omega
  rw [signed_false] at hn hpos
  have hunits : signed s m.units * 4 = k * n.units := by
    have hcast : ((signed s m.units * 4 : ℤ) : ℚ) = (k * n.units : ℤ) := by
      have hvalue := hk.eq_div
      rw [div_eq_div_iff hq.ne' four_ne_zero] at hvalue
      push_cast at hn ⊢
      rw [hm, hn]
      linear_combination unitsPerOne * hvalue
    exact_mod_cast hcast
  have hdiv : finite s m / finite false n = ofUnits s (m.units * unitsPerOne) n.units := by
    have hne : n.units ≠ 0 := by omega
    change Binary64.div (finite s m) (finite false n) = _
    simp only [Binary64.div, hne, if_false, Bool.bne_false]
  rw [hdiv]
  exact ofUnits_quotient hk (by omega) hunits

theorem exactly_literal {n : Nat} (h : n ≤ twoTo 53) : (OfNat.ofNat n : Binary64).Exactly n := by
  rw [literal_eq h, exactly_finite_iff, wholeMagnitude_units, signed_false]
  push_cast
  rfl

theorem ofRatio_exactly {n k : ℤ} {den : Nat} (hd : 0 < den) (hk : Quarters (n / den : ℚ) k) :
    (ofRatio (decide (n < 0)) n.natAbs den).Exactly (n / den) := by
  refine ofUnits_quotient hk hd ?_
  have hvalue := hk.eq_div
  rw [div_eq_div_iff (Nat.cast_ne_zero.mpr hd.ne') four_ne_zero] at hvalue
  rw [signed_natAbs]
  exact_mod_cast hvalue

theorem signed_half (s : Bool) (n : Nat) : signed s (n / 2) = (signed s n).tdiv 2 := by
  cases s <;> simp [Int.neg_tdiv]

theorem signed_div_four {s : Bool} {a c : Nat} {n : ℤ} (hc : 0 < c)
    (h : signed s a = n * (2 * c : Nat)) : signed s (a / (4 * c)) = n.tdiv 2 := by
  have hquotient : signed s a * 4 = n * (8 * c : Nat) := by
    rw [h]
    push_cast
    ring
  obtain ⟨hsign, habs⟩ := signed_quotient (by omega) hquotient
  have ha : a = n.natAbs * (2 * c) := by
    refine Nat.eq_of_mul_eq_mul_right (by decide : 0 < 4) ?_
    rw [habs]
    ring
  have hfour : 4 * c = 2 * (2 * c) := by ring
  rw [ha, hfour, Nat.mul_div_mul_right _ _ (by omega), signed_half, hsign]

theorem Exactly.truncate_eq {x : Binary64} {n : ℤ} (h : x.Exactly (n / 2)) :
    x.truncate = .ok (n.tdiv 2) := by
  obtain ⟨s, m, rfl, hm⟩ := h.exists_finite
  have hunits : signed s m.units = n * (2 * unitsPerQuarter : Nat) := by
    have hcast : (signed s m.units : ℚ) = (n * (2 * unitsPerQuarter : Nat) : ℤ) := by
      rw [hm, unitsPerOne_cast]
      push_cast
      ring
    exact_mod_cast hcast
  rw [truncate, unitsPerOne_eq, signed_div_four unitsPerQuarter_pos hunits]

theorem exactly_zero : (0 : Binary64).Exactly 0 := by
  simpa using exactly_literal (n := 0) (Nat.zero_le _)

theorem exactly_two : (2 : Binary64).Exactly 2 := by
  simpa using exactly_literal (n := 2) (by decide)

theorem exactly_four : (4 : Binary64).Exactly 4 := by
  simpa using exactly_literal (n := 4) (by decide)

theorem Exactly.orTooLarge_eq {x : Binary64} {q : ℚ} (h : x.Exactly q) : x.orTooLarge = .ok x := by
  rw [orTooLarge, if_pos h.isFinite]

section Small

variable {n : ℤ} (h : IsSmall n)

include h

theorem quarters_whole : Quarters n (4 * n) := by
  have := h.bounds
  refine ⟨?_, abs_le.mpr (by omega)⟩
  push_cast
  ring

theorem quarters_half : Quarters (n / 2) (2 * n) := by
  have := h.bounds
  refine ⟨?_, abs_le.mpr (by omega)⟩
  push_cast
  ring

theorem quarters_quarter : Quarters (n / 4) n := by
  have := h.bounds
  exact ⟨rfl, abs_le.mpr (by omega)⟩

theorem exists_toBinary64 : ∃ x, (Scalar.whole n).toBinary64 = .ok x ∧ x.Exactly n := by
  have hexact : (Binary64.ofInt n).Exactly n := by
    have hk : Quarters (n / (1 : ℕ) : ℚ) (4 * n) := by simpa using quarters_whole h
    rw [Binary64.ofInt]
    simpa only [Nat.cast_one, div_one] using ofRatio_exactly Nat.one_pos hk
  exact ⟨Binary64.ofInt n, hexact.orTooLarge_eq, hexact⟩

theorem exactly_of_half {x : Binary64} (hx : (Scalar.whole n).half = .ok x) :
    x.Exactly (n / 2) := by
  have hk : Quarters (n / (2 : ℕ) : ℚ) (2 * n) := by simpa using quarters_half h
  have hexact := ofRatio_exactly Nat.two_pos hk
  rw [Scalar.half, hexact.orTooLarge_eq] at hx
  rw [← Except.ok.inj hx]
  simpa only [Nat.cast_ofNat] using hexact

theorem exactly_div_two {x : Binary64} (hx : x.Exactly n) : (x / 2).Exactly (n / 2) :=
  hx.div exactly_two two_pos (quarters_half h)

theorem exactly_div_four {x : Binary64} (hx : x.Exactly n) : (x / 4).Exactly (n / 4) :=
  hx.div exactly_four four_pos (quarters_quarter h)

end Small

end Binary64
end WindSymbols
