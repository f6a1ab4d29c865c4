import Mathlib.Data.Rat.Cast.Order
import WindSymbols.Console.Report
import WindSymbols.Proofs.Console.Plain
import WindSymbols.Proofs.Wind.Classification

/-! The speed column of the table of a symbol set. A cell is read back as a range of speeds, with
its numbers as decimals (`SpeedRange.read`). Six digits write a whole number below a million as it
is (`spells_briefText`), and up to there the cells stand for the ranges that they are made from
(`cellHolds_calm`, `cellHolds_range`, `cellHolds_invalid`). -/

namespace WindSymbols

open Rounding Text

inductive SpeedRange
  | below (bound : Decimal)
  | between (low high : Decimal)
  | atLeast (bound : Decimal)

namespace SpeedRange

def contains (x : ℚ) : SpeedRange → Bool
  | below bound => x < bound.value
  | between low high => low.value ≤ x && x < high.value
  | atLeast bound => bound.value ≤ x

/-- A cell is `< bound`, `>= bound, inf` or `low - high`. -/
def read (cs : List Char) : Option SpeedRange :=
  match cs with
  | '<' :: ' ' :: bound => (Speed.readDecimal bound).map below
  | '>' :: '=' :: ' ' :: rest => do
    let (bound, upper) ← cut? ", ".toList rest
    if upper = "inf".toList then (Speed.readDecimal bound).map atLeast else none
  | cs => do
    let (low, high) ← cut? " - ".toList cs
    return between (← Speed.readDecimal low) (← Speed.readDecimal high)

end SpeedRange

def cellHolds (cell : String) (x : ℚ) : Bool :=
  (SpeedRange.read cell.toList).any (·.contains x)

structure Spells (s : String) (value : ℚ) : Prop where
  numeric : Numeric s
  readDecimal : ∃ d, Speed.readDecimal s.toList = some d ∧ d.value = value

namespace Spells

variable {s low high : String} {a b x : ℚ}

theorem cellHolds_below (h : Spells s a) : cellHolds ("< " ++ s) x = decide (x < a) := by
  obtain ⟨d, hd, rfl⟩ := h.readDecimal
  have hcell : ("< " ++ s).toList = '<' :: ' ' :: s.toList := String.toList_append
  simp [cellHolds, SpeedRange.read, SpeedRange.contains, hcell, hd]

theorem cellHolds_atLeast (h : Spells s a) :
    cellHolds (">= " ++ s ++ ", inf") x = decide (a ≤ x) := by
  obtain ⟨d, hd, rfl⟩ := h.readDecimal
  have hcell : (">= " ++ s ++ ", inf").toList =
      '>' :: '=' :: ' ' :: (s.toList ++ (", ".toList ++ "inf".toList)) := by
    rw [String.toList_append, String.toList_append]
    rfl
  have hcut : cut? ", ".toList (s.toList ++ (", ".toList ++ "inf".toList)) =
      some (s.toList, "inf".toList) :=
    cut?_append_of_head (h.numeric.not_mem (by decide)) _ _
  unfold cellHolds
  rw [hcell]
  simp only [SpeedRange.read, hcut, hd, bind, Option.bind, Option.map, if_true, Option.any,
    SpeedRange.contains]

theorem read_of_numeric (h : Numeric s) (rest : List Char) :
    SpeedRange.read (s.toList ++ (" - ".toList ++ rest)) = do
      let (low, high) ← cut? " - ".toList (s.toList ++ (" - ".toList ++ rest))
      return .between (← Speed.readDecimal low) (← Speed.readDecimal high) := by
  have hbelow := h.not_mem (show Speed.isLiteralChar '<' = false by decide)
  have hatLeast := h.not_mem (show Speed.isLiteralChar '>' = false by decide)
  cases hs : s.toList with
  | nil => rfl
  | cons c cs =>
    rw [hs] at hbelow hatLeast
    unfold SpeedRange.read
    split
    · rename_i heq
      obtain ⟨rfl, -⟩ := List.cons.inj heq
      exact absurd List.mem_cons_self hbelow
    · rename_i heq
      obtain ⟨rfl, -⟩ := List.cons.inj heq
      exact absurd List.mem_cons_self hatLeast
    · rfl

theorem cellHolds_between (hlow : Spells low a) (hhigh : Spells high b) :
    cellHolds (low ++ " - " ++ high) x = decide (a ≤ x ∧ x < b) := by
  obtain ⟨c, hc, rfl⟩ := hlow.readDecimal
  obtain ⟨d, hd, rfl⟩ := hhigh.readDecimal
  have hcell : (low ++ " - " ++ high).toList = low.toList ++ (" - ".toList ++ high.toList) := by
    rw [String.toList_append, String.toList_append, List.append_assoc]
  have hcut : cut? " - ".toList (low.toList ++ (" - ".toList ++ high.toList)) =
      some (low.toList, high.toList) :=
    cut?_append_of_head (hlow.numeric.not_mem (by decide)) _ _
  unfold cellHolds
  rw [hcell, read_of_numeric hlow.numeric, hcut]
  simp [hc, hd, SpeedRange.contains]

end Spells

/-! Whole numbers of at most six digits. -/

theorem leadingPower_whole {n : Nat} (h : 0 < n) :
    leadingPower (n * unitsPerOne) unitsPerOne = ((digitsOf n).length : Int) - 1 := by
  have hle : unitsPerOne ≤ n * unitsPerOne := Nat.le_mul_of_pos_left _ h
  rw [leadingPower, if_pos hle, Nat.mul_div_cancel _ Binary64.unitsPerOne_pos]

theorem value_ofQuotient_whole {n : Nat} (h : n < 10 ^ 6) :
    (Decimal.ofQuotient 6 (n * unitsPerOne) unitsPerOne).value = n := by
  have hone := Binary64.unitsPerOne_pos
  rcases Nat.eq_zero_or_pos n with rfl | hpos
  · rw [Nat.zero_mul, Decimal.ofQuotient, if_pos rfl]
    simp [Decimal.value]
  have hne : n * unitsPerOne ≠ 0 := Nat.mul_ne_zero (Nat.ne_of_gt hpos) (Nat.ne_of_gt hone)
  obtain ⟨k, hk⟩ : ∃ k, (digitsOf n).length + k = 6 :=
    Nat.le.dest ((Nat.length_toDigits_le_iff (by decide) (by decide)).mpr h)
  have hlast : leadingPower (n * unitsPerOne) unitsPerOne - (6 - 1 : Nat) = -(k : Int) := by
    rw [leadingPower_whole hpos]
    omega
  have hzero : tenTo 0 = 1 := rfl
  rw [Decimal.ofQuotient, if_neg hne, hlast]
  dsimp only
  rw [Int.neg_neg, Scaled.ofQuotient, Scaled.nearest, Int.toNat_natCast, Int.toNat_neg_natCast,
    hzero, Nat.mul_one, Nat.mul_right_comm, nearest_mul _ hone, Decimal.value_mul_tenTo,
    Int.add_left_neg]
  simp [Decimal.value]

theorem spells_briefText {n : Nat} (h : n < 10 ^ 6) : Spells (Binary64.ofNat n).briefText n := by
  refine ⟨numeric_briefText _, ?_⟩
  have hsmall : n ≤ twoTo 53 := Nat.le_of_lt (Nat.lt_trans h (by decide))
  obtain ⟨numeral, htext, hvalue⟩ := Speed.write_numeral .brief
    (Decimal.ofQuotient 6 (n * unitsPerOne) unitsPerOne).trimmed
  refine ⟨numeral.decimal, ?_, ?_⟩
  · rw [Binary64.ofNat_eq hsmall, Binary64.briefText, String.toList_ofList, Binary64.textWith,
      Binary64.wholeMagnitude_units, htext]
    exact Speed.readDecimal_text numeral
  · rw [hvalue, Decimal.value_trimmed, value_ofQuotient_whole h]

theorem Binary64.ofNat_add {a b : Nat} (ha : a ≤ twoTo 53) (hb : b ≤ twoTo 53) :
    ofNat a + ofNat b = ofNat (a + b) := by
  have hsum : signed false (wholeMagnitude a ha).units + signed false (wholeMagnitude b hb).units =
      ((a + b) * unitsPerOne : Nat) := by
    rw [signed_false, signed_false, wholeMagnitude_units, wholeMagnitude_units, Nat.add_mul,
      Int.natCast_add]
  rw [ofNat_eq ha, ofNat_eq hb, add_eq hsum]
  rfl

theorem Binary64.ofInt_natCast (n : Nat) : ofInt n = ofNat n := by
  have hneg : ¬ (n : Int) < 0 := by omega
  rw [ofInt, decide_eq_false hneg, Int.natAbs_natCast, ofNat]

/-! The ends of the ranges, and their cells. -/

namespace Report

variable {k largest : Nat} {x : ℚ}

def calmText : String := "< " ++ calmBelow.briefText

def invalidText (largest : Nat) : String := ">= " ++ (invalidFrom largest).briefText ++ ", inf"

def inFamily (x : ℚ) (k : Nat) : Bool := decide (5 * k + 3 ≤ x ∧ x < 5 * k + 8)

theorem calmBelow_eq_ofNat : calmBelow = .ofNat 3 := rfl

theorem familyLow_eq (h : 5 * k ≤ twoTo 53) :
    familyLow (5 * ((k : Int) + 1)) = .ofNat (5 * k + 3) := by
  have hfamily : 5 * ((k : Int) + 1) - shortBarbKnots = (5 * k : Nat) := by
    rw [shortBarbKnots]
    omega
  rw [familyLow, hfamily, Binary64.ofInt_natCast, calmBelow_eq_ofNat,
    Binary64.ofNat_add h (by decide)]

theorem familyHigh_eq (h : 5 * k + 3 ≤ twoTo 53) :
    familyHigh (5 * ((k : Int) + 1)) = .ofNat (5 * k + 8) := by
  have hstep : Binary64.ofInt shortBarbKnots = .ofNat 5 := Binary64.ofInt_natCast 5
  rw [familyHigh, familyLow_eq (by omega), hstep, Binary64.ofNat_add h (by decide)]

theorem invalidFrom_eq (h : largest ≤ twoTo 53) : invalidFrom largest = .ofNat (largest + 3) := by
  rw [invalidFrom, calmBelow_eq_ofNat, Binary64.ofNat_add h (by decide)]

theorem cellHolds_calm : cellHolds calmText x = decide (x < 3) := by
  rw [calmText, calmBelow_eq_ofNat, (spells_briefText (by decide)).cellHolds_below, Nat.cast_ofNat]

theorem cellHolds_range (h : 5 * k + 8 < 10 ^ 6) :
    cellHolds (rangeText (5 * ((k : Int) + 1))) x = inFamily x k := by
  have hlimit : 10 ^ 6 ≤ twoTo 53 := by decide
  have hlow : 5 * k + 3 < 10 ^ 6 := by omega
  have hcell := Spells.cellHolds_between (x := x) (spells_briefText hlow) (spells_briefText h)
  rw [rangeText, familyLow_eq (by omega), familyHigh_eq (by omega), hcell, inFamily]
  push_cast
  rfl

theorem cellHolds_noData : cellHolds "NaN" x = false := rfl

theorem cellHolds_invalid (h : largest + 3 < 10 ^ 6) :
    cellHolds (invalidText largest) x = decide (largest + 3 ≤ x) := by
  have hlimit : 10 ^ 6 ≤ twoTo 53 := by decide
  rw [invalidText, invalidFrom_eq (by omega), (spells_briefText h).cellHolds_atLeast]
  push_cast
  rfl

/-- From a million on six digits are too few, and a range can lose its upper part. -/
theorem cellHolds_range_million : cellHolds (rangeText 1000000) 1000000 = false := by
  decide +kernel

end Report
end WindSymbols
