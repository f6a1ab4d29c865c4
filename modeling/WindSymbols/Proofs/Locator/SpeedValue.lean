import WindSymbols.Locator.Reader
import WindSymbols.Proofs.Locator.Literal
import WindSymbols.Proofs.Number.Nearest

/-! Speeds as literals give them. The digits of a numeral have an exact value, with a fraction after
the point and a power of ten (`Numeral.decimal_value`), and the literal stands for the double
precision number nearest to it. A speed is read if and only if its text is a literal, and then it is
the one number that the literal stands for (`Locator.readSpeed_nearest`). -/

namespace WindSymbols

open Text

namespace Speed

namespace Numeral

def value (n : Numeral) : ℚ :=
  (valueOfDigits n.whole +
      valueOfDigits (n.fraction.getD []) / 10 ^ (n.fraction.getD []).length) *
    10 ^ Exponent.value n.exponent

theorem value_nonneg (n : Numeral) : 0 ≤ n.value := by
  unfold value
  positivity

theorem decimal_value (n : Numeral) : n.decimal.value = n.value := by
  simp only [decimal, value, Decimal.value, valueOfDigits_append]
  rw [Nat.cast_add, Nat.cast_mul, Decimal.tenTo_cast, zpow_sub₀ (by norm_num), zpow_natCast]
  field_simp

end Numeral

namespace Literal

/-- What a literal says of a number. -/
def StandsFor : Literal → Binary64 → Prop
  | notANumber, x => x = .nan
  | infinity sign, x => x = .infinite sign.isNegative
  | decimal sign n, x =>
    x.IsNearest (Binary64.signedRat sign.isNegative n.value) ∧ x.isNegative = sign.isNegative

theorem standsFor_value (lit : Literal) : lit.StandsFor lit.value := by
  cases lit with
  | notANumber => rfl
  | infinity sign => rfl
  | decimal sign n =>
    rw [StandsFor, value, n.decimal_value]
    exact ⟨Binary64.isNearest_ofMagnitude _ n.value_nonneg, Binary64.isNegative_ofMagnitude _ _⟩

theorem standsFor_iff {lit : Literal} {x : Binary64} : lit.StandsFor x ↔ x = lit.value := by
  constructor
  · intro h
    cases lit with
    | notANumber => exact h
    | infinity sign => exact h
    | decimal sign n =>
      obtain ⟨hvalue, hsign⟩ := (decimal sign n).standsFor_value
      exact h.1.unique hvalue (h.2.trans hsign.symm)
  · rintro rfl
    exact lit.standsFor_value

end Literal

theorem read_eq_none_iff {cs : List Char} :
    read cs = none ↔ ∀ lit : Literal, trim cs ≠ lit.text := by
  rw [Option.eq_none_iff_forall_ne_some]
  constructor
  · intro h lit htext
    exact h lit.value (read_literal htext)
  · intro h x hread
    obtain ⟨lit, htext, -⟩ := read_eq_some_iff.mp hread
    exact h lit htext

end Speed

namespace Locator

variable (token : String) (text : Option String)

theorem readSpeed_eq_ok_iff {x : Binary64} :
    readSpeed token text = .ok x ↔ Speed.read token.toList = some x := by
  unfold readSpeed
  split
  · rename_i y hread
    rw [hread, Except.ok.injEq, Option.some.injEq]
  · rename_i hread
    rw [hread]
    exact ⟨nofun, nofun⟩

theorem readSpeed_eq_error_iff {e : SymbolError} :
    readSpeed token text = .error e ↔
      Speed.read token.toList = none ∧ e = .malformed .speed text := by
  unfold readSpeed
  split
  · rename_i y hread
    rw [hread]
    exact ⟨nofun, nofun⟩
  · rename_i hread
    rw [hread, Except.error.injEq, eq_comm]
    exact (and_iff_right rfl).symm

/-- Reading a speed. Without the blanks around it the text is a literal: NaN, Infinity with or
without a sign, or a numeral with or without one. The result is what the literal stands for, which
for a numeral is the nearest of all numbers, with the sign that is written even where it is zero.
Any other text is refused on behalf of the text it stands in. -/
theorem readSpeed_nearest :
    (∀ x, readSpeed token text = .ok x ↔
      ∃ lit : Speed.Literal, trim token.toList = lit.text ∧ lit.StandsFor x) ∧
    (∀ e, readSpeed token text = .error e ↔
      (∀ lit : Speed.Literal, trim token.toList ≠ lit.text) ∧ e = .malformed .speed text) ∧
    LocatorPart.speed.missing = "unparsable speed" := by
  refine ⟨fun x => ?_, fun e => ?_, rfl⟩
  · simp only [readSpeed_eq_ok_iff, Speed.read_eq_some_iff, Speed.Literal.standsFor_iff]
  · rw [readSpeed_eq_error_iff, Speed.read_eq_none_iff]

/-- Halfway between two numbers the even one is taken, and halfway to the smallest number zero. -/
example :
    readSpeed " 9007199254740993 " none = .ok 9007199254740992 ∧
      readSpeed "9007199254740993.0000000000000000001" none = .ok 9007199254740994 ∧
      readSpeed "-1e-400" none = .ok (-0) ∧ readSpeed "1.e+309" none = .ok (.infinite false) := by
  decide +kernel

end Locator
end WindSymbols
