import WindSymbols.Number.Layout
import WindSymbols.Proofs.Locator.Literal
import WindSymbols.Proofs.Number.Shortest

/-! Numbers written as speed literals. Every style writes the value of a decimal as a numeral
(`write_numeral`), so that every number has a literal that is read back as that number
(`exists_literal`). -/

namespace WindSymbols

open Text

namespace Layout

theorem fixed_eq (coefficient places : Nat) :
    ∃ (whole : List Char) (fraction : Option (List Char)),
      fixed coefficient places = whole ++ Speed.Numeral.pointText fraction ∧
        whole ≠ [] ∧ Digits (whole ++ fraction.getD []) ∧
        (fraction.getD []).length = places ∧
        valueOfDigits (whole ++ fraction.getD []) = coefficient := by
  have hlen := length_digitsOf_pos coefficient
  have hdigits : Digits
      (List.replicate (places + 1 - (digitsOf coefficient).length) '0' ++ digitsOf coefficient) :=
    (digits_replicate_zero _).append (digits_digitsOf _)
  have hvalue := valueOfDigits_zeros_append (places + 1 - (digitsOf coefficient).length)
    (digitsOf coefficient)
  rw [valueOfDigits_digitsOf] at hvalue
  have hplaces : places + 1 ≤
      (List.replicate (places + 1 - (digitsOf coefficient).length) '0' ++
        digitsOf coefficient).length := by
    rw [List.length_append, List.length_replicate]
    omega
  unfold fixed
  dsimp only
  generalize List.replicate (places + 1 - (digitsOf coefficient).length) '0' ++
    digitsOf coefficient = padded at *
  by_cases hzero : places = 0
  · refine ⟨padded, none, ?_, ?_, ?_, hzero.symm, ?_⟩
    · rw [if_pos hzero, Speed.Numeral.pointText, List.append_nil]
    · exact List.ne_nil_of_length_pos (by omega)
    · rwa [Option.getD_none, List.append_nil]
    · rwa [Option.getD_none, List.append_nil]
  · refine ⟨padded.take (padded.length - places), some (padded.drop (padded.length - places)), ?_,
      ?_, ?_, ?_, ?_⟩
    · rw [if_neg hzero, Speed.Numeral.pointText]
    · refine List.ne_nil_of_length_pos ?_
      rw [List.length_take]
      omega
    · rwa [Option.getD_some, List.take_append_drop]
    · rw [Option.getD_some, List.length_drop]
      omega
    · rwa [Option.getD_some, List.take_append_drop]

theorem exponent_eq (width : Nat) (power : Int) :
    ∃ e : Speed.Exponent, exponent width power = Speed.Exponent.text (some e) ∧
      Speed.Exponent.value (some e) = power := by
  have hdigits : Digits
      (List.replicate (width - (digitsOf power.natAbs).length) '0' ++ digitsOf power.natAbs) :=
    (digits_replicate_zero _).append (digits_digitsOf _)
  have hne : List.replicate (width - (digitsOf power.natAbs).length) '0' ++
      digitsOf power.natAbs ≠ [] := by
    simp [digitsOf_ne_nil]
  have hvalue := valueOfDigits_zeros_append (width - (digitsOf power.natAbs).length)
    (digitsOf power.natAbs)
  rw [valueOfDigits_digitsOf] at hvalue
  refine ⟨⟨'e', if power < 0 then .minus else .plus, _, .inl rfl, hne, hdigits⟩, ?_, ?_⟩
  · unfold exponent Speed.Exponent.text
    by_cases hneg : power < 0 <;> simp [hneg, Speed.Sign.text]
  · unfold Speed.Exponent.value
    dsimp only
    rw [hvalue]
    by_cases hneg : power < 0
    · simp only [hneg, if_true, Speed.Sign.isNegative, decide_true]
      omega
    · simp [hneg, Speed.Sign.isNegative]
      omega

end Layout

namespace Speed

theorem exists_numeral_fixed (coefficient places : Nat) (e : Option Exponent) :
    ∃ n : Numeral, Layout.fixed coefficient places ++ Exponent.text e = n.text ∧
      n.decimal = ⟨coefficient, Exponent.value e - places⟩ := by
  obtain ⟨whole, fraction, htext, hne, hdigits, hlen, hvalue⟩ :=
    Layout.fixed_eq coefficient places
  have hwhole : Digits whole := fun c hc => hdigits c (List.mem_append_left _ hc)
  have hfraction : Digits (fraction.getD []) := fun c hc => hdigits c (List.mem_append_right _ hc)
  refine ⟨⟨whole, fraction, e, hwhole, hfraction, fun h => hne h.1⟩, ?_, ?_⟩
  · rw [htext, List.append_assoc]
    rfl
  · simp only [Numeral.decimal, hvalue, hlen]

/-- The text of a decimal, in any style, is a numeral of the same value. -/
theorem write_numeral (style : NumberStyle) (d : Decimal) :
    ∃ n : Numeral, style.write d = n.text ∧ n.decimal.value = d.value := by
  unfold NumberStyle.write
  split
  · obtain ⟨e, htext, he⟩ := Layout.exponent_eq style.exponentWidth d.leading
    obtain ⟨n, hn, hdecimal⟩ :=
      exists_numeral_fixed d.coefficient ((digitsOf d.coefficient).length - 1) (some e)
    have hexponent :
        d.leading - ((digitsOf d.coefficient).length - 1 : Nat) = d.exponent := by
      have hlen := length_digitsOf_pos d.coefficient
      unfold Decimal.leading
      omega
    refine ⟨n, by rw [htext, hn], ?_⟩
    rw [hdecimal, he, hexponent]
  split
  · obtain ⟨n, hn, hdecimal⟩ := exists_numeral_fixed d.coefficient (-d.exponent).toNat none
    have hexponent : 0 - ((-d.exponent).toNat : Int) = d.exponent := by omega
    refine ⟨n, by rw [← hn]; exact (List.append_nil _).symm, ?_⟩
    rw [hdecimal, Exponent.value, hexponent]
  · have hwhole : Decimal.value ⟨d.coefficient * tenTo d.exponent.toNat, 0⟩ = d.value := by
      have hexponent : 0 + (d.exponent.toNat : Int) = d.exponent := by omega
      rw [Decimal.value_mul_tenTo, hexponent]
    dsimp only
    split
    · obtain ⟨n, hn, hdecimal⟩ :=
        exists_numeral_fixed (d.coefficient * tenTo d.exponent.toNat * 10) 1 none
      refine ⟨n, by rw [← hn]; exact (List.append_nil _).symm, ?_⟩
      rw [hdecimal, ← hwhole]
      exact Decimal.value_mul_tenTo _ 1 _
    · refine ⟨⟨digitsOf (d.coefficient * tenTo d.exponent.toNat), none, none, digits_digitsOf _,
        List.forall_mem_nil _, fun h => digitsOf_ne_nil _ h.1⟩, ?_, ?_⟩
      · exact (List.append_nil _).symm
      · simp only [Numeral.decimal, Option.getD_none, List.append_nil, valueOfDigits_digitsOf]
        exact hwhole

theorem exists_sign_text (negative : Bool) :
    ∃ sign : Sign, Layout.sign negative = sign.text ∧ sign.isNegative = negative := by
  cases negative with
  | true => exact ⟨.minus, rfl, rfl⟩
  | false => exact ⟨.absent, rfl, rfl⟩

/-- The text of a finite number is a literal of that number. -/
theorem exists_literal_textChars (s : Bool) (m : Magnitude) :
    ∃ lit : Literal, (Binary64.finite s m).textChars = lit.text ∧ lit.value = .finite s m := by
  obtain ⟨n, htext, hvalue⟩ := write_numeral .plain (Shortest.digits m.units)
  obtain ⟨sign, hsign, hneg⟩ := exists_sign_text s
  refine ⟨.decimal sign n, ?_, ?_⟩
  · change Layout.sign s ++ NumberStyle.plain.write (Shortest.digits m.units) = _
    rw [hsign, htext]
    rfl
  · rw [Literal.value, hvalue, hneg, ← Decimal.toBinary64_eq, Shortest.toBinary64_digits]

def literalText : Binary64 → List Char
  | .nan => "NaN".toList
  | .infinite negative => Layout.sign negative ++ "Infinity".toList
  | x => x.textChars

theorem exists_literal (x : Binary64) :
    ∃ lit : Literal, literalText x = lit.text ∧ lit.value = x := by
  cases x with
  | nan => exact ⟨.notANumber, rfl, rfl⟩
  | infinite negative =>
    obtain ⟨sign, hsign, hneg⟩ := exists_sign_text negative
    exact ⟨.infinity sign, congrArg (· ++ _) hsign, congrArg Binary64.infinite hneg⟩
  | finite s m => exact exists_literal_textChars s m

end Speed
end WindSymbols
