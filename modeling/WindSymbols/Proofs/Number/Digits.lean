import WindSymbols.Number.Layout

/-! Decimal digits and the numbers they stand for. The digits of a number stand for it
(`valueOfDigits_digitsOf`), digits written after each other add up (`valueOfDigits_append`), and
zeros at the front or at the end count as one expects. -/

namespace WindSymbols

def Digits (cs : List Char) : Prop := ∀ c ∈ cs, c.isDigit = true

theorem Digits.append {a b : List Char} (ha : Digits a) (hb : Digits b) : Digits (a ++ b) := by
  intro c hc
  rcases List.mem_append.mp hc with hc | hc
  · exact ha c hc
  · exact hb c hc

theorem digits_replicate_zero (k : Nat) : Digits (List.replicate k '0') := by
  intro c hc
  rw [List.eq_of_mem_replicate hc]
  rfl

theorem digits_digitsOf (n : Nat) : Digits (digitsOf n) := fun _ =>
  Nat.isDigit_of_mem_toDigits (by decide) (by decide)

theorem digitsOf_ne_nil (n : Nat) : digitsOf n ≠ [] := Nat.toDigits_ne_nil

theorem valueOfDigits_eq (cs : List Char) : valueOfDigits cs = Nat.ofDigitChars 10 cs 0 := rfl

theorem valueOfDigits_digitsOf (n : Nat) : valueOfDigits (digitsOf n) = n :=
  Nat.ofDigitChars_ten_toDigits

theorem digitsOf_injective {m n : Nat} (h : digitsOf m = digitsOf n) : m = n := by
  rw [← valueOfDigits_digitsOf m, h, valueOfDigits_digitsOf]

theorem integerText_natCast (n : Nat) : (integerText n).toList = digitsOf n := by
  have hneg : ¬ (n : Int) < 0 := by omega
  rw [integerText, String.toList_ofList, Layout.integer, if_neg hneg, Int.natAbs_natCast]

theorem valueOfDigits_append (a b : List Char) :
    valueOfDigits (a ++ b) = valueOfDigits a * tenTo b.length + valueOfDigits b := by
  simp only [valueOfDigits_eq, Nat.ofDigitChars_append]
  rw [Nat.ofDigitChars_eq_ofDigitChars_zero, Nat.mul_comm]
  rfl

theorem valueOfDigits_replicate_zero (k : Nat) : valueOfDigits (List.replicate k '0') = 0 := by
  rw [valueOfDigits_eq, Nat.ofDigitChars_replicate_zero, Nat.mul_zero]

theorem valueOfDigits_zeros_append (k : Nat) (cs : List Char) :
    valueOfDigits (List.replicate k '0' ++ cs) = valueOfDigits cs := by
  rw [valueOfDigits_append, valueOfDigits_replicate_zero, Nat.zero_mul, Nat.zero_add]

theorem length_digitsOf_pos (n : Nat) : 0 < (digitsOf n).length := Nat.length_toDigits_pos

theorem lt_tenTo_length (n : Nat) : n < tenTo (digitsOf n).length :=
  (Nat.length_toDigits_le_iff (by decide) (length_digitsOf_pos n)).mp (Nat.le_refl _)

theorem tenTo_le_of_pos {n : Nat} (h : 0 < n) : tenTo ((digitsOf n).length - 1) ≤ n := by
  rcases Nat.eq_zero_or_pos ((digitsOf n).length - 1) with hzero | hpos
  · rw [hzero]
    exact h
  · refine Nat.le_of_not_lt fun hlt => ?_
    have hlen : (digitsOf n).length ≤ (digitsOf n).length - 1 :=
      (Nat.length_toDigits_le_iff (by decide) hpos).mpr hlt
    omega

theorem tenTo_add (a b : Nat) : tenTo (a + b) = tenTo a * tenTo b := Nat.pow_add 10 a b

theorem tenTo_le {a b : Nat} (h : a ≤ b) : tenTo a ≤ tenTo b :=
  Nat.pow_le_pow_right (by decide) h

end WindSymbols
