import WindSymbols.Number.Shortest
import WindSymbols.Proofs.Number.DecimalValue

/-! The shortest digits of a number read back as that number. Each candidate is read before it is
taken, and when no short one is left all the digits of the magnitude are, whose value is exact. -/

namespace WindSymbols

open Rounding

theorem Scaled.nearest_eq (s : Scaled) : s.nearest = s.floor ∨ s.nearest = s.floor + 1 := by
  have hlow : s.floor ≤ s.nearest := div_le_nearest s.num s.den
  have hhigh : s.nearest ≤ s.floor + 1 := nearest_le s.num s.den
  omega

namespace Decimal

theorem tenTo_zeros_dvd (n : Nat) :
    tenTo ((digitsOf n).reverse.takeWhile (· == '0')).length ∣ n := by
  have hsplit := congrArg List.reverse
    (List.takeWhile_append_dropWhile (p := (· == '0')) (l := (digitsOf n).reverse))
  rw [List.reverse_append, List.reverse_reverse] at hsplit
  have hzeros : ((digitsOf n).reverse.takeWhile (· == '0')).reverse =
      List.replicate ((digitsOf n).reverse.takeWhile (· == '0')).length '0' := by
    rw [List.eq_replicate_iff, List.length_reverse]
    refine ⟨rfl, fun c hc => ?_⟩
    have hall := List.all_eq_true.mp List.all_takeWhile c (List.mem_reverse.mp hc)
    exact eq_of_beq hall
  have hvalue := congrArg valueOfDigits hsplit
  rw [hzeros, valueOfDigits_append, valueOfDigits_replicate_zero, List.length_replicate,
    valueOfDigits_digitsOf, Nat.add_zero] at hvalue
  exact Dvd.intro_left _ hvalue

theorem value_trimmed (d : Decimal) : d.trimmed.value = d.value := by
  unfold trimmed
  split
  · rename_i hzero
    simp [value, hzero]
  · dsimp only
    rw [← value_mul_tenTo, Nat.div_mul_cancel (tenTo_zeros_dvd _)]

theorem value_fives (n k : Nat) :
    value ⟨n * Nat.pow 5 k, -(k : Int)⟩ = (n : ℚ) / (twoTo k : Nat) := by
  have htwo : ((twoTo k : Nat) : ℚ) = 2 ^ k := Nat.cast_pow 2 k
  have hfive : ((Nat.pow 5 k : Nat) : ℚ) = 5 ^ k := Nat.cast_pow 5 k
  have hten : (10 : ℚ) ^ k = 2 ^ k * 5 ^ k := by
    rw [← mul_pow]
    norm_num
  simp only [value]
  rw [Nat.cast_mul, hfive, htwo, zpow_neg, zpow_natCast, hten]
  field_simp

end Decimal

namespace Binary64

theorem ofMagnitude_units (s : Bool) (m : Magnitude) :
    ofMagnitude s ((m.units : ℚ) / unitsPerOne) = finite s m := by
  rw [ofMagnitude_div s m.units unitsPerOne_pos]
  exact ofUnits_eq_finite_iff.mpr ⟨rfl, toGrid_mul m.onGrid unitsPerOne_pos⟩

theorem ofMagnitude_sign {q : ℚ} {s t : Bool} {m : Magnitude} (h : ofMagnitude s q = finite t m)
    (u : Bool) : ofMagnitude u q = finite u m := by
  simp only [ofMagnitude, ofRatio, ofUnits_eq_finite_iff] at h ⊢
  exact ⟨trivial, h.2⟩

end Binary64

theorem Magnitude.eq_of_units_eq {m n : Magnitude} (h : m.units = n.units) : m = n := by
  cases m
  cases n
  cases h
  rfl

namespace Shortest

theorem readsBack_iff {m : Magnitude} {d : Decimal} :
    readsBack m.units d = true ↔ ∀ s, d.toBinary64 s = .finite s m := by
  unfold readsBack
  constructor
  · intro h s
    split at h
    · rename_i t n hread
      rw [Decimal.toBinary64_eq] at hread
      have hunits : n.units = m.units := eq_of_beq h
      rw [Decimal.toBinary64_eq, Binary64.ofMagnitude_sign hread,
        Magnitude.eq_of_units_eq hunits]
    · cases h
  · intro h
    rw [h false]
    exact beq_self_eq_true m.units

theorem readsBack_of_withDigits? {units count : Nat} {d : Decimal}
    (h : withDigits? units count = some d) : readsBack units d = true := by
  unfold withDigits? at h
  dsimp only at h
  generalize leadingPower units unitsPerOne - ((count - 1 : Nat) : Int) = last at h
  generalize Scaled.ofQuotient units unitsPerOne (-last) = s at h
  split at h
  · rename_i hbelow habove
    cases h
    rcases s.nearest_eq with heq | heq
    · rw [heq]
      exact hbelow
    · rw [heq]
      exact habove
  · rename_i hbelow _
    cases h
    exact hbelow
  · rename_i _ habove
    cases h
    exact habove
  · cases h

theorem value_exact (units : Nat) : (exact units).value = (units : ℚ) / unitsPerOne := by
  have hexact : exact units = ⟨units * Nat.pow 5 1074, -((1074 : Nat) : Int)⟩ := rfl
  rw [hexact]
  simp only [Decimal.value_fives, unitsPerOne]

theorem readsBack_exact (m : Magnitude) : readsBack m.units (exact m.units) = true := by
  refine readsBack_iff.mpr fun s => ?_
  rw [Decimal.toBinary64_eq, value_exact, Binary64.ofMagnitude_units]

theorem toBinary64_digits (m : Magnitude) (s : Bool) :
    (digits m.units).toBinary64 s = .finite s m := by
  unfold digits
  rw [Decimal.toBinary64_congr (Decimal.value_trimmed _)]
  refine readsBack_iff.mp ?_ s
  cases hfind : (List.range 17).findSome? fun n => withDigits? m.units (n + 1) with
  | none => exact readsBack_exact m
  | some d =>
    obtain ⟨count, -, hcount⟩ := List.exists_of_findSome?_eq_some hfind
    exact readsBack_of_withDigits? hcount

end Shortest
end WindSymbols
