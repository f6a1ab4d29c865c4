import WindSymbols.Number.Scalar
import WindSymbols.Proofs.Number.Interval

/-! Equality of double precision values. It only looks at the position of a number on the line, so
equal values are equal to the same values (`same_congr`), and adding a zero of either sign leaves a
value as it is (`add_zero_same`). Half of a whole number is exact: the whole number has twice as
many units, and the two are different values (`same_half_eq_false`). -/

namespace WindSymbols

open Rounding

def Position.neg : Position → Position
  | below => above
  | «at» units => «at» (-units)
  | above => below

theorem Position.neg_inj {p q : Position} : p.neg = q.neg ↔ p = q := by
  cases p <;> cases q <;> simp [Position.neg]

namespace Binary64

theorem same_iff {a b : Binary64} :
    a.same b = true ↔ ∃ p, a.position? = some p ∧ b.position? = some p := by
  unfold same
  cases a.position? <;> cases b.position? <;> simp [eq_comm]

theorem same_congr {a b : Binary64} (h : a.same b = true) (x : Binary64) :
    a.same x = b.same x := by
  obtain ⟨p, ha, hb⟩ := same_iff.mp h
  unfold same
  rw [ha, hb]

theorem same_trans {a b c : Binary64} (hab : a.same b = true) (hbc : b.same c = true) :
    a.same c = true := by
  rw [same_congr hab]
  exact hbc

theorem same_comm (a b : Binary64) : a.same b = b.same a := by
  rw [Bool.eq_iff_iff, same_iff, same_iff]
  simp only [and_comm]

theorem same_self {a : Binary64} (h : a.isFinite = true) : a.same a = true := by
  cases a with
  | finite s m => exact same_iff.mpr ⟨_, rfl, rfl⟩
  | nan => cases h
  | infinite => cases h

theorem exists_eq_finite {a : Binary64} (h : a.isFinite = true) : ∃ s m, a = finite s m := by
  cases a with
  | finite s m => exact ⟨s, m, rfl⟩
  | nan => cases h
  | infinite => cases h

theorem isFinite_of_same {a b : Binary64} (h : a.same b = true) (hb : b.isFinite = true) :
    a.isFinite = true := by
  obtain ⟨s, m, rfl⟩ := exists_eq_finite hb
  obtain ⟨p, ha, hp⟩ := same_iff.mp h
  cases hp
  cases a with
  | finite => rfl
  | nan => cases ha
  | infinite t => cases t <;> cases ha

theorem neg_neg (a : Binary64) : - -a = a := by
  change neg (neg a) = a
  cases a <;> simp [neg]

theorem signed_not (s : Bool) (units : Nat) : signed (!s) units = -signed s units := by
  cases s <;> simp

theorem neg_position? (a : Binary64) : (-a).position? = a.position?.map Position.neg := by
  change (neg a).position? = _
  cases a with
  | nan => rfl
  | infinite s => cases s <;> rfl
  | finite s m => simp [neg, position?, Position.neg, signed_not]

theorem neg_same_neg (a b : Binary64) : (-a).same (-b) = a.same b := by
  unfold same
  rw [neg_position?, neg_position?]
  cases a.position? <;> cases b.position? <;> simp [Position.neg_inj]

theorem signed_zero (s : Bool) : signed s 0 = 0 := by cases s <;> rfl

theorem ofUnits_signed (s : Bool) (m : Magnitude) (h : m.units ≠ 0) :
    ofUnits (decide (signed s m.units < 0)) (signed s m.units).natAbs 1 = finite s m := by
  have hsign : decide (signed s m.units < 0) = s := by
    cases s with
    | false => exact decide_eq_false (Int.not_lt.mpr (Int.natCast_nonneg _))
    | true =>
      rw [signed_true]
      exact decide_eq_true (by omega)
  have hunits : (signed s m.units).natAbs = m.units := by
    cases s <;> simp only [signed_false, signed_true] <;> omega
  rw [hsign, hunits, ofUnits_one s m.lt_limit m.onGrid]

theorem add_comm (s t : Bool) (a b : Magnitude) :
    finite s a + finite t b = finite t b + finite s a := by
  change add (finite s a) (finite t b) = add (finite t b) (finite s a)
  simp only [add, Int.add_comm (signed s a.units), Bool.and_comm s t]

theorem add_zero_same (s t : Bool) (a : Magnitude) {z : Magnitude} (hz : z.units = 0) :
    (finite s a + finite t z).same (finite s a) = true := by
  have hsum : signed s a.units + signed t z.units = signed s a.units := by
    rw [hz, signed_zero, Int.add_zero]
  change (add (finite s a) (finite t z)).same (finite s a) = true
  simp only [add, hsum]
  by_cases hzero : a.units = 0
  · have hposition (b : Bool) {m : Magnitude} (hm : m.units = 0) :
        (finite b m).position? = some (.at 0) := by
      rw [position?, hm, signed_zero]
    rw [hzero, signed_zero, if_pos rfl, same_iff]
    exact ⟨_, hposition _ rfl, hposition _ hzero⟩
  · have hne : signed s a.units ≠ 0 := by
      cases s <;> simp only [signed_false, signed_true] <;> omega
    rw [if_neg hne, ofUnits_signed s a hzero]
    exact same_self rfl

theorem zero_mul_finite (s : Bool) (m : Magnitude) :
    (0 : Binary64) * finite s m = finite s .zero := by
  rw [literal_eq (Nat.zero_le _), mul_eq, wholeMagnitude_units, Nat.zero_mul, Nat.zero_mul,
    ofUnits_zero _ unitsPerOne_pos, Bool.false_bne]

theorem same_finite {a b : Magnitude} (s : Bool) :
    (finite s a).same (finite s b) = true ↔ a.units = b.units := by
  rw [same_iff]
  cases s <;> simp [position?] <;> omega

theorem orTooLarge_eq_ok {x y : Binary64} (h : x.orTooLarge = .ok y) :
    y = x ∧ y.isFinite = true := by
  unfold orTooLarge at h
  split at h
  · cases h
    exact ⟨rfl, ‹_›⟩
  · cases h

theorem ofUnits_eq_finite {s : Bool} {num den : Nat} (h : (ofUnits s num den).isFinite = true) :
    ∃ m, ofUnits s num den = finite s m ∧ m.units = toGrid 53 num den := by
  by_cases hlim : toGrid 53 num den < unitsLimit
  · exact ⟨_, ofUnits_finite s hlim, rfl⟩
  · rw [ofUnits_infinite s (Nat.le_of_not_lt hlim)] at h
    cases h

theorem one_le_toGrid {num den : Nat} (hd : 0 < den) (h : den ≤ num) : 1 ≤ toGrid 53 num den :=
  le_toGrid (by decide) hd (by decide) (by omega)

theorem twoTo_one : twoTo 1 = 2 := rfl

theorem two_le_twoTo {k : Nat} (h : 0 < k) : 2 ≤ twoTo k := by
  rw [← twoTo_one]
  exact twoTo_le h

theorem two_le_unitsPerOne : 2 ≤ unitsPerOne := two_le_twoTo (by omega : 0 < 1074)

theorem zero_position : (0 : Binary64).position? = some (.at 0) := by
  rw [literal_eq (Nat.zero_le _)]
  simp [position?]

theorem ofUnits_same_zero {s : Bool} {num den : Nat} (hd : 0 < den) (h : den ≤ num) :
    (ofUnits s num den).same 0 = false := by
  by_cases hlim : toGrid 53 num den < unitsLimit
  · have hpos := one_le_toGrid hd h
    rw [ofUnits_finite s hlim, same, zero_position]
    cases s <;> simp [position?] <;> omega
  · rw [ofUnits_infinite s (Nat.le_of_not_lt hlim), same, zero_position]
    cases s <;> simp [position?]

theorem div_two_same_zero {m : Magnitude} (h : unitsPerOne ≤ m.units) :
    (finite false m / 2).same 0 = false := by
  have hlarge := two_le_unitsPerOne
  rw [literal_eq (two_le_twoTo (by omega : 0 < 53))]
  change (div (finite false m) (finite false _)).same 0 = false
  rw [div, wholeMagnitude_units, if_neg (by omega)]
  apply ofUnits_same_zero (by omega)
  exact Nat.mul_le_mul_right _ (Nat.le_trans hlarge h)

end Binary64

namespace Scalar

open Binary64

theorem ofRatio_eq_ok {n : Int} {den : Nat} {x : Binary64} (hn : 0 < n)
    (h : (ofRatio (decide (n < 0)) n.natAbs den).orTooLarge = .ok x) :
    ∃ m, x = finite false m ∧ m.units = toGrid 53 (n.natAbs * unitsPerOne) den := by
  have hsign : decide (n < 0) = false := decide_eq_false (by omega)
  obtain ⟨hx, hfinite⟩ := orTooLarge_eq_ok h
  rw [ofRatio, hsign] at hx
  rw [hx] at hfinite ⊢
  exact ofUnits_eq_finite hfinite

theorem toBinary64_whole {n : Int} {x : Binary64} (hn : 0 < n)
    (h : (whole n).toBinary64 = .ok x) :
    ∃ m, x = finite false m ∧ m.units = toGrid 53 (n.natAbs * unitsPerOne) 1 :=
  ofRatio_eq_ok hn h

theorem unitsPerOne_le_of_whole {n : Int} {m : Magnitude} (hn : 0 < n)
    (h : m.units = toGrid 53 (n.natAbs * unitsPerOne) 1) : unitsPerOne ≤ m.units := by
  rw [h]
  apply le_toGrid (by decide) Nat.one_pos onGrid_unitsPerOne
  rw [Nat.mul_one]
  exact Nat.le_mul_of_pos_left _ (by omega)

theorem half_whole {n : Int} {y : Binary64} (hn : 0 < n) (h : (whole n).half = .ok y) :
    ∃ m, y = finite false m ∧ m.units = toGrid 53 (n.natAbs * unitsPerOne) 2 :=
  ofRatio_eq_ok hn h

/-- Rounding a positive whole number to its grid doubles what rounding its half gives. -/
theorem toGrid_whole {n : Nat} (hn : 0 < n) :
    toGrid 53 (n * unitsPerOne) 1 = 2 * toGrid 53 (n * unitsPerOne) 2 := by
  -- even half of one has more binary digits than the grid keeps
  have hlarge : twoTo 1073 ≤ n * unitsPerOne / 2 := by
    have htwo : twoTo 1073 * 2 = unitsPerOne := by
      rw [← twoTo_one, ← twoTo_add, unitsPerOne]
    rw [Nat.le_div_iff_mul_le (by decide), htwo]
    exact Nat.le_mul_of_pos_left _ hn
  have hne : n * unitsPerOne / 2 ≠ 0 :=
    Nat.ne_of_gt (Nat.lt_of_lt_of_le (twoTo_pos 1073) hlarge)
  have hlog : 1073 ≤ (n * unitsPerOne / 2).log2 := by
    apply Nat.le_of_not_lt
    intro hlt
    exact Nat.not_le_of_lt ((log2_lt_iff hne).mp hlt) hlarge
  rw [← toGrid_double hne (by omega), ← toGrid_scale 53 _ 1 (by decide : 0 < 2)]

theorem same_half_eq_false {n : Int} {x y : Binary64} (hn : 0 < n)
    (hx : (whole n).toBinary64 = .ok x) (hy : (whole n).half = .ok y) : x.same y = false := by
  obtain ⟨a, rfl, ha⟩ := toBinary64_whole hn hx
  obtain ⟨b, rfl, hb⟩ := half_whole hn hy
  have hdouble : a.units = 2 * b.units := by rw [ha, hb, toGrid_whole (by omega)]
  have hpos : 1 ≤ b.units := by
    have hunits : unitsPerOne ≤ n.natAbs * unitsPerOne := Nat.le_mul_of_pos_left _ (by omega)
    rw [hb]
    exact one_le_toGrid (by decide) (Nat.le_trans two_le_unitsPerOne hunits)
  rw [Bool.eq_false_iff, Ne, same_finite]
  omega

end Scalar
end WindSymbols
