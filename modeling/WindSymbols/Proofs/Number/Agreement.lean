import WindSymbols.Proofs.Number.Error
import WindSymbols.Proofs.Number.Order
import WindSymbols.Proofs.Number.Value
import Mathlib.Data.Nat.Cast.Order.Field
import Mathlib.Tactic.FieldSimp
import Mathlib.Tactic.Linarith
import Mathlib.Tactic.NormNum
import Mathlib.Tactic.Positivity
import Mathlib.Tactic.Ring

/-! Numbers that agree to so many significant digits. A rounded quotient is off by half a unit and by
a tiny part of itself (`toGrid_error`), so that the products of one number with two factors that
are close agree as their factors do, but for one unit (`Binary64.mul_agreeTo`). -/

namespace WindSymbols

open Rounding

/-- Two values differ by at most half a unit of the last of their digits, beside some slack. -/
def AgreeTo (digits : Nat) (slack a b : ℚ) : Prop :=
  |a - b| ≤ min |a| |b| / (2 * 10 ^ digits) + slack

theorem agreeTo_of_le {digits : Nat} {κ a b : ℚ} (ha : 0 < a) (hb : 0 < b)
    (hab : a ≤ (1 + κ) * b) (hba : b ≤ (1 + κ) * a) (hκ : κ ≤ 1 / (2 * 10 ^ digits)) :
    AgreeTo digits 0 a b := by
  rw [AgreeTo, add_zero, abs_of_pos ha, abs_of_pos hb, div_eq_mul_one_div]
  rcases le_total a b with hle | hle
  · rw [min_eq_left hle, abs_sub_comm, abs_of_nonneg (sub_nonneg.mpr hle)]
    have := mul_le_mul_of_nonneg_left hκ ha.le
    linarith
  · rw [min_eq_right hle, abs_of_nonneg (sub_nonneg.mpr hle)]
    have := mul_le_mul_of_nonneg_left hκ hb.le
    linarith

theorem le_of_close {ε δ κ a b w : ℚ} (ha : |a - w| ≤ ε * w) (hb : |b - w| ≤ δ * w) (hw : 0 ≤ w)
    (hκ : 1 + ε ≤ (1 + κ) * (1 - δ)) (hpos : 0 ≤ 1 + κ) : a ≤ (1 + κ) * b := by
  calc
    a ≤ (1 + ε) * w := by linarith [(abs_le.mp ha).2]
    _ ≤ (1 + κ) * (1 - δ) * w := mul_le_mul_of_nonneg_right hκ hw
    _ = (1 + κ) * ((1 - δ) * w) := by ring
    _ ≤ (1 + κ) * b := mul_le_mul_of_nonneg_left (by linarith [(abs_le.mp hb).1]) hpos

namespace Rounding

theorem spacing_mul_le (q : Nat) : twoTo 52 * spacing 53 q ≤ q + twoTo 52 := by
  rcases Nat.lt_or_ge q.log2 53 with hlow | hhigh
  · have hexp : q.log2 + 1 - 53 = 0 := by omega
    rw [spacing, hexp]
    exact Nat.le_add_left ..
  · have hne : q ≠ 0 := by
      rintro rfl
      simp at hhigh
    have hexp : 52 + (q.log2 + 1 - 53) = q.log2 := by omega
    rw [spacing, ← twoTo_add, hexp]
    exact Nat.le_add_right_of_le (Nat.log2_self_le hne)

theorem toGrid_error (num : Nat) {den : Nat} (hd : 0 < den) :
    |(toGrid 53 num den : ℚ) - num / den| ≤ 1 / 2 + num / den / 2 ^ 53 := by
  have hdq : (0 : ℚ) < den := Nat.cast_pos.mpr hd
  obtain ⟨q, hq⟩ : ∃ q : ℚ, q = num / den := ⟨_, rfl⟩
  have hnum : (num : ℚ) = q * den := by rw [hq, div_mul_cancel₀ _ hdq.ne']
  have hspacing : (2 ^ 52 * spacing 53 (num / den) : ℚ) ≤ q + 2 ^ 52 := by
    have hfloor : ((num / den : Nat) : ℚ) ≤ q := hq ▸ Nat.cast_div_le
    have hnat : ((twoTo 52 * spacing 53 (num / den) : Nat) : ℚ) ≤
        ((num / den + twoTo 52 : Nat) : ℚ) := Nat.cast_le.mpr (spacing_mul_le _)
    have htwo : (twoTo 52 : ℚ) = 2 ^ 52 := by norm_num [twoTo]
    push_cast [htwo] at hnat
    linarith
  have hupper : (2 * (toGrid 53 num den * den) : ℚ) ≤ 2 * num + den * spacing 53 (num / den) := by
    exact_mod_cast toGrid_mul_le 53 num hd
  have hlower : (2 * num : ℚ) ≤ 2 * (toGrid 53 num den * den) + den * spacing 53 (num / den) := by
    exact_mod_cast le_toGrid_mul 53 num hd
  rw [hnum] at hupper hlower
  have hup : (2 * toGrid 53 num den : ℚ) ≤ 2 * q + spacing 53 (num / den) :=
    le_of_mul_le_mul_left (by linarith) hdq
  have hlow : 2 * q ≤ 2 * toGrid 53 num den + (spacing 53 (num / den) : ℚ) :=
    le_of_mul_le_mul_left (by linarith) hdq
  rw [← hq, abs_le]
  constructor <;> linarith

/-- Rounded products with two close factors are close, but for one unit. -/
theorem toGrid_mul_close {a b c den : Nat} {ε η : ℚ} (hd : 0 < den) (hc : (c : ℚ) ≤ (1 + ε) * b)
    (hε : 0 ≤ ε) (hε' : ε ≤ 1 / 2) (hη : 3 / 2 * (ε + 1 / 2 ^ 51) ≤ η) :
    (toGrid 53 (a * c) den : ℚ) ≤ toGrid 53 (a * b) den + (η * toGrid 53 (a * b) den + 1) := by
  have hdq : (0 : ℚ) < den := Nat.cast_pos.mpr hd
  obtain ⟨hlow, -⟩ := abs_le.mp (toGrid_error (a * b) hd)
  obtain ⟨-, hhigh⟩ := abs_le.mp (toGrid_error (a * c) hd)
  push_cast at hlow hhigh
  generalize toGrid 53 (a * b) den = t at hlow ⊢
  generalize toGrid 53 (a * c) den = t' at hhigh ⊢
  obtain ⟨q, hq⟩ : ∃ q : ℚ, q = a * b / den := ⟨_, rfl⟩
  have hqpos : 0 ≤ q := by rw [hq]; positivity
  have hq' : (a * c / den : ℚ) ≤ (1 + ε) * q := by
    rw [hq, ← mul_div_assoc, div_le_div_iff_of_pos_right hdq]
    calc
      (a * c : ℚ) ≤ a * ((1 + ε) * b) := mul_le_mul_of_nonneg_left hc (Nat.cast_nonneg a)
      _ = (1 + ε) * (a * b) := by ring
  rw [← hq] at hlow
  -- the exact product is bounded by the rounded one
  have hbound : (1 + ε) * q * (1 + 1 / 2 ^ 53) ≤ (1 + ε + 1 / 2 ^ 51) * (t + 1 / 2) := by
    calc
      (1 + ε) * q * (1 + 1 / 2 ^ 53) = q * ((1 + ε) * (1 + 1 / 2 ^ 53)) := by ring
      _ ≤ q * ((1 + ε + 1 / 2 ^ 51) * (1 - 1 / 2 ^ 53)) :=
        mul_le_mul_of_nonneg_left (by linarith) hqpos
      _ = (1 + ε + 1 / 2 ^ 51) * (q - q / 2 ^ 53) := by ring
      _ ≤ (1 + ε + 1 / 2 ^ 51) * (t + 1 / 2) :=
        mul_le_mul_of_nonneg_left (by linarith) (by linarith)
  have hsum : (t' : ℚ) ≤ t + 1 + (ε + 1 / 2 ^ 51) * (t + 1 / 2) := by linarith
  rcases Nat.eq_zero_or_pos t with rfl | ht
  · -- no product is rounded to one unit and the other one to two
    have hlt : (t' : ℚ) < 2 := by
      push_cast at hsum
      linarith
    have hle : t' ≤ 1 := Nat.le_of_lt_succ (by exact_mod_cast hlt)
    have hle' : (t' : ℚ) ≤ 1 := by exact_mod_cast hle
    push_cast
    linarith
  · have hone : (1 : ℚ) ≤ t := by exact_mod_cast ht
    have hscaled : (ε + 1 / 2 ^ 51) * (t + 1 / 2) ≤ η * t := by
      calc
        (ε + 1 / 2 ^ 51) * (t + 1 / 2) ≤ (ε + 1 / 2 ^ 51) * (3 / 2 * t) :=
          mul_le_mul_of_nonneg_left (by linarith) (by positivity)
        _ = 3 / 2 * (ε + 1 / 2 ^ 51) * t := by ring
        _ ≤ η * t := mul_le_mul_of_nonneg_right hη (by linarith)
    linarith

theorem min_close {t t' : Nat} {η : ℚ} (hη : 0 ≤ η) (limit : Nat) (h : (t' : ℚ) ≤ t + (η * t + 1)) :
    ((min t' limit : Nat) : ℚ) ≤ (min t limit : Nat) + (η * (min t limit : Nat) + 1) := by
  rcases Nat.le_total t limit with hle | hle
  · rw [Nat.min_eq_left hle]
    exact le_trans (Nat.cast_le.mpr (Nat.min_le_left ..)) h
  · rw [Nat.min_eq_right hle]
    have hlimit : ((min t' limit : Nat) : ℚ) ≤ limit := Nat.cast_le.mpr (Nat.min_le_right ..)
    have hpos : 0 ≤ η * limit := mul_nonneg hη (Nat.cast_nonneg limit)
    linarith

end Rounding

namespace Binary64

/-- The value of a number, where those beyond the largest count as the first that is too large. -/
def placed : Binary64 → ℚ
  | nan => 0
  | infinite s => (signed s unitsLimit : ℚ) / unitsPerOne
  | finite s m => (signed s m.units : ℚ) / unitsPerOne

theorem placed_ofUnits (s : Bool) (num den : Nat) :
    (ofUnits s num den).placed =
      (signed s (min (toGrid 53 num den) unitsLimit) : ℚ) / unitsPerOne := by
  rcases Nat.lt_or_ge (toGrid 53 num den) unitsLimit with hlt | hge
  · rw [ofUnits_finite s hlt, Nat.min_eq_left (Nat.le_of_lt hlt)]
    rfl
  · rw [ofUnits_infinite s hge, Nat.min_eq_right hge]
    rfl

theorem agreeTo_units {digits t t' : Nat} (s : Bool)
    (h : (t' : ℚ) ≤ t + (1 / (2 * 10 ^ digits) * t + 1))
    (h' : (t : ℚ) ≤ t' + (1 / (2 * 10 ^ digits) * t' + 1)) :
    AgreeTo digits (1 / unitsPerOne) ((signed s t : ℚ) / unitsPerOne)
      ((signed s t' : ℚ) / unitsPerOne) := by
  have hone := unitsPerOne_cast_pos
  have habs : ∀ n : Nat, |((signed s n : Int) : ℚ)| = n := by
    intro n
    cases s <;> simp
  have hdiff : |((signed s t : Int) : ℚ) - (signed s t' : Int)| = |(t : ℚ) - t'| := by
    cases s with
    | false => rfl
    | true =>
      have hneg : ((signed true t : Int) : ℚ) - (signed true t' : Int) = -((t : ℚ) - t') := by
        simp only [signed_true, Int.cast_neg, Int.cast_natCast]
        ring
      rw [hneg, abs_neg]
  have hunits : |(t : ℚ) - t'| ≤ min (t : ℚ) t' * (1 / (2 * 10 ^ digits)) + 1 := by
    rcases le_total (t : ℚ) t' with hle | hle
    · rw [min_eq_left hle, abs_sub_comm, abs_of_nonneg (sub_nonneg.mpr hle)]
      linarith
    · rw [min_eq_right hle, abs_of_nonneg (sub_nonneg.mpr hle)]
      linarith
  rw [AgreeTo, ← sub_div, abs_div, abs_div, abs_div, habs, habs, hdiff, abs_of_pos hone,
    min_div_div_right hone.le, div_le_iff₀ hone]
  calc
    |(t : ℚ) - t'| ≤ min (t : ℚ) t' * (1 / (2 * 10 ^ digits)) + 1 := hunits
    _ = (min (t : ℚ) t' / unitsPerOne / (2 * 10 ^ digits) + 1 / unitsPerOne) * unitsPerOne := by
      field_simp

theorem IsPositive.toRat_pos {x : Binary64} (h : x.IsPositive) : 0 < x.toRat := by
  obtain ⟨m, rfl, hm⟩ := h
  rw [toRat_finite, signed_false]
  exact div_pos (by exact_mod_cast hm) unitsPerOne_cast_pos

theorem mul_agreeTo {digits : Nat} {ε : ℚ} {x f g : Binary64} (hx : x.isFinite = true)
    (hf : f.IsPositive) (hg : g.IsPositive) (hfg : f.toRat ≤ (1 + ε) * g.toRat)
    (hgf : g.toRat ≤ (1 + ε) * f.toRat) (hε : 0 ≤ ε) (hε' : ε ≤ 1 / 2)
    (hη : 3 / 2 * (ε + 1 / 2 ^ 51) ≤ 1 / (2 * 10 ^ digits)) :
    AgreeTo digits (1 / unitsPerOne) (x * f).placed (x * g).placed := by
  have hone := unitsPerOne_cast_pos
  obtain ⟨s, a, rfl⟩ := exists_eq_finite hx
  obtain ⟨b, rfl, -⟩ := hf
  obtain ⟨c, rfl, -⟩ := hg
  rw [toRat_finite, toRat_finite, signed_false, signed_false, ← mul_div_assoc,
    div_le_div_iff_of_pos_right hone] at hfg hgf
  rw [mul_eq, mul_eq, placed_ofUnits, placed_ofUnits]
  have hpos : (0 : ℚ) ≤ 1 / (2 * 10 ^ digits) := by positivity
  refine agreeTo_units _ (min_close hpos _ ?_) (min_close hpos _ ?_)
  · exact toGrid_mul_close unitsPerOne_pos (by exact_mod_cast hgf) hε hε' hη
  · exact toGrid_mul_close unitsPerOne_pos (by exact_mod_cast hfg) hε hε' hη

end Binary64
end WindSymbols
