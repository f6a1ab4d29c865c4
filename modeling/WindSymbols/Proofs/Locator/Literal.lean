import WindSymbols.Locator.Speed
import WindSymbols.Proofs.Number.DecimalValue
import WindSymbols.Proofs.Text.Trim

/-! The grammar of speed literals and the numbers they stand for. The reader of speeds accepts the
texts of this grammar, with blanks around them, and nothing else; it returns the number nearest to
what the digits say (`read_eq_some_iff`). -/

namespace WindSymbols.Speed

open Text

inductive Sign
  | absent
  | plus
  | minus
deriving DecidableEq

namespace Sign

def text : Sign → List Char
  | absent => []
  | plus => ['+']
  | minus => ['-']

def isNegative (s : Sign) : Bool := s = minus

end Sign

structure Exponent where
  letter : Char
  sign : Sign
  digits : List Char
  letter_eq : letter = 'e' ∨ letter = 'E'
  digits_ne_nil : digits ≠ []
  all_digits : Digits digits

namespace Exponent

def text : Option Exponent → List Char
  | none => []
  | some e => e.letter :: (e.sign.text ++ e.digits)

def value : Option Exponent → Int
  | none => 0
  | some e => if e.sign.isNegative then -(valueOfDigits e.digits : Int) else valueOfDigits e.digits

end Exponent

/-- Digits with or without a point, and an exponent. There is a digit before the point or after. -/
structure Numeral where
  whole : List Char
  fraction : Option (List Char)
  exponent : Option Exponent
  whole_digits : Digits whole
  fraction_digits : Digits (fraction.getD [])
  some_digit : ¬ (whole = [] ∧ fraction.getD [] = [])

namespace Numeral

def pointText : Option (List Char) → List Char
  | none => []
  | some ds => '.' :: ds

def text (n : Numeral) : List Char := n.whole ++ (pointText n.fraction ++ Exponent.text n.exponent)

def decimal (n : Numeral) : Decimal :=
  ⟨valueOfDigits (n.whole ++ n.fraction.getD []),
    Exponent.value n.exponent - (n.fraction.getD []).length⟩

end Numeral

inductive Literal
  | notANumber
  | infinity (sign : Sign)
  | decimal (sign : Sign) (numeral : Numeral)

namespace Literal

def text : Literal → List Char
  | notANumber => "NaN".toList
  | infinity sign => sign.text ++ "Infinity".toList
  | decimal sign numeral => sign.text ++ numeral.text

def value : Literal → Binary64
  | notANumber => .nan
  | infinity sign => .infinite sign.isNegative
  | decimal sign numeral => .ofMagnitude sign.isNegative numeral.decimal.value

end Literal

def Unsigned (cs : List Char) : Prop := ∀ c ∈ cs.head?, c ≠ '-' ∧ c ≠ '+'

theorem splitSign_append (sign : Sign) {rest : List Char} (h : Unsigned rest) :
    splitSign (sign.text ++ rest) = (sign.isNegative, rest) := by
  cases sign with
  | plus => rfl
  | minus => rfl
  | absent =>
    cases rest with
    | nil => rfl
    | cons c more =>
      obtain ⟨hminus, hplus⟩ := h c rfl
      change splitSign (c :: more) = (false, c :: more)
      unfold splitSign
      split <;> simp_all

theorem exists_sign (cs : List Char) :
    ∃ sign : Sign, cs = sign.text ++ (splitSign cs).2 ∧ (splitSign cs).1 = sign.isNegative := by
  unfold splitSign
  split
  · exact ⟨.minus, rfl, rfl⟩
  · exact ⟨.plus, rfl, rfl⟩
  · exact ⟨.absent, rfl, rfl⟩

def NoDigitAhead (cs : List Char) : Prop := ∀ c ∈ cs.head?, c.isDigit = false

theorem leadingDigits_append {ds rest : List Char} (hds : Digits ds) (h : NoDigitAhead rest) :
    leadingDigits (ds ++ rest) = ds ∧ afterDigits (ds ++ rest) = rest := by
  have hrest : rest.takeWhile Char.isDigit = [] ∧ rest.dropWhile Char.isDigit = rest := by
    cases rest with
    | nil => exact ⟨rfl, rfl⟩
    | cons c more => simp [List.takeWhile, List.dropWhile, h c rfl]
  unfold leadingDigits afterDigits
  rw [List.takeWhile_append_of_pos hds, List.dropWhile_append_of_pos hds, hrest.1, hrest.2]
  exact ⟨List.append_nil ds, rfl⟩

theorem digits_leadingDigits (cs : List Char) : Digits (leadingDigits cs) :=
  List.all_eq_true.mp List.all_takeWhile

theorem leadingDigits_append_afterDigits (cs : List Char) :
    leadingDigits cs ++ afterDigits cs = cs :=
  List.takeWhile_append_dropWhile

theorem afterDigits_eq_nil_iff {cs : List Char} : afterDigits cs = [] ↔ Digits cs :=
  List.dropWhile_eq_nil_iff

theorem isDigit_ne {c d : Char} (h : c.isDigit = true) (hd : d.isDigit = false) : c ≠ d := by
  rintro rfl
  rw [h] at hd
  exact Bool.noConfusion hd

theorem Digits.unsigned {ds : List Char} (h : Digits ds) : Unsigned ds := by
  intro c hc
  have hdigit := h c (List.mem_of_mem_head? hc)
  exact ⟨isDigit_ne hdigit rfl, isDigit_ne hdigit rfl⟩

theorem readExponent_text (e : Option Exponent) :
    readExponent (Exponent.text e) = some (Exponent.value e) := by
  cases e with
  | none => rfl
  | some e =>
    have hsign := splitSign_append e.sign (Digits.unsigned e.all_digits)
    have hafter := afterDigits_eq_nil_iff.mpr e.all_digits
    simp only [Exponent.text, readExponent, hsign, Exponent.value]
    rw [if_pos ⟨e.letter_eq, e.digits_ne_nil, hafter⟩]

theorem exists_exponent {cs : List Char} {v : Int} (h : readExponent cs = some v) :
    ∃ e, cs = Exponent.text e ∧ v = Exponent.value e := by
  cases cs with
  | nil =>
    cases h
    exact ⟨none, rfl, rfl⟩
  | cons c rest =>
    obtain ⟨sign, hrest, hneg⟩ := exists_sign rest
    simp only [readExponent] at h
    split at h
    · rename_i hok
      obtain ⟨hletter, hne, hafter⟩ := hok
      cases h
      refine ⟨some ⟨c, sign, _, hletter, hne, afterDigits_eq_nil_iff.mp hafter⟩, ?_, ?_⟩
      · exact congrArg (c :: ·) hrest
      · simp only [Exponent.value, hneg]
    · cases h

theorem noDigitAhead_exponent (e : Option Exponent) : NoDigitAhead (Exponent.text e) := by
  intro c hc
  cases e with
  | none => cases hc
  | some e =>
    cases hc
    rcases e.letter_eq with h | h <;> rw [h] <;> rfl

theorem splitFraction_text (fraction : Option (List Char)) (e : Option Exponent)
    (h : Digits (fraction.getD [])) :
    splitFraction (Numeral.pointText fraction ++ Exponent.text e) =
      (fraction.getD [], Exponent.text e) := by
  cases fraction with
  | some ds =>
    have hds : Digits ds := h
    obtain ⟨hleading, hafter⟩ := leadingDigits_append hds (noDigitAhead_exponent e)
    change (leadingDigits (ds ++ Exponent.text e), afterDigits (ds ++ Exponent.text e)) = _
    rw [hleading, hafter]
    rfl
  | none =>
    change splitFraction (Exponent.text e) = _
    cases e with
    | none => rfl
    | some e =>
      unfold splitFraction Exponent.text
      split
      · rename_i heq
        obtain ⟨hdot, -⟩ := List.cons.inj heq
        rcases e.letter_eq with h | h <;> rw [h] at hdot <;> cases hdot
      · rfl

theorem noDigitAhead_point (fraction : Option (List Char)) (e : Option Exponent) :
    NoDigitAhead (Numeral.pointText fraction ++ Exponent.text e) := by
  cases fraction with
  | none => exact noDigitAhead_exponent e
  | some ds =>
    intro c hc
    cases hc
    rfl

theorem readDecimal_text (n : Numeral) : readDecimal n.text = some n.decimal := by
  obtain ⟨hleading, hafter⟩ :=
    leadingDigits_append n.whole_digits (noDigitAhead_point n.fraction n.exponent)
  unfold readDecimal Numeral.text
  simp only [hleading, hafter, splitFraction_text _ _ n.fraction_digits]
  rw [if_neg n.some_digit, readExponent_text]
  rfl

theorem exists_fraction (cs : List Char) :
    ∃ fraction : Option (List Char), cs = Numeral.pointText fraction ++ (splitFraction cs).2 ∧
      (splitFraction cs).1 = fraction.getD [] ∧ Digits (fraction.getD []) := by
  unfold splitFraction
  split
  · rename_i rest
    refine ⟨some (leadingDigits rest), ?_, rfl, digits_leadingDigits rest⟩
    exact congrArg ('.' :: ·) (leadingDigits_append_afterDigits rest).symm
  · exact ⟨none, rfl, rfl, fun c hc => by cases hc⟩

theorem exists_numeral {cs : List Char} {d : Decimal} (h : readDecimal cs = some d) :
    ∃ n : Numeral, cs = n.text ∧ n.decimal = d := by
  obtain ⟨fraction, hpoint, hfraction, hdigits⟩ := exists_fraction (afterDigits cs)
  simp only [readDecimal] at h
  split at h
  · cases h
  · rename_i hsome
    obtain ⟨v, hv, rfl⟩ := Option.map_eq_some_iff.mp h
    obtain ⟨e, he, rfl⟩ := exists_exponent hv
    rw [hfraction] at hsome
    refine ⟨⟨leadingDigits cs, fraction, e, digits_leadingDigits cs, hdigits, hsome⟩, ?_, ?_⟩
    · unfold Numeral.text
      rw [← he, ← hpoint, leadingDigits_append_afterDigits]
    · simp only [Numeral.decimal, hfraction]

theorem Numeral.head_text (n : Numeral) :
    ∃ c rest, n.text = c :: rest ∧ (c.isDigit = true ∨ c = '.') := by
  unfold Numeral.text
  cases hw : n.whole with
  | cons c rest =>
    exact ⟨c, _, rfl, .inl (n.whole_digits c (hw ▸ List.mem_cons_self))⟩
  | nil =>
    cases hf : n.fraction with
    | some ds => exact ⟨'.', _, rfl, .inr rfl⟩
    | none =>
      have hsome := n.some_digit
      simp [hw, hf] at hsome

theorem Numeral.unsigned_text (n : Numeral) : Unsigned n.text := by
  obtain ⟨c, rest, htext, hc⟩ := n.head_text
  intro d hd
  rw [htext] at hd
  cases hd
  rcases hc with hc | rfl
  · exact ⟨isDigit_ne hc rfl, isDigit_ne hc rfl⟩
  · decide

theorem Numeral.text_ne_cons (n : Numeral) {c : Char} (rest : List Char)
    (hdigit : c.isDigit = false) (hdot : c ≠ '.') : n.text ≠ c :: rest := by
  obtain ⟨d, more, htext, hd⟩ := n.head_text
  rw [htext]
  intro heq
  obtain ⟨rfl, -⟩ := List.cons.inj heq
  rcases hd with hd | hd
  · rw [hd] at hdigit
    cases hdigit
  · exact hdot hd

def marks : List Char := "+-.eENaInfity".toList

def isLiteralChar (c : Char) : Bool := c.isDigit || marks.contains c

theorem Digits.all_isLiteralChar {ds : List Char} (h : Digits ds) :
    ds.all isLiteralChar = true := by
  rw [List.all_eq_true]
  intro c hc
  rw [isLiteralChar, h c hc, Bool.true_or]

theorem Sign.all_isLiteralChar (sign : Sign) : sign.text.all isLiteralChar = true := by
  cases sign <;> rfl

theorem Exponent.all_isLiteralChar (e : Option Exponent) :
    (Exponent.text e).all isLiteralChar = true := by
  cases e with
  | none => rfl
  | some e =>
    have hletter : isLiteralChar e.letter = true := by
      rcases e.letter_eq with h | h <;> rw [h] <;> rfl
    simp only [Exponent.text, List.all_cons, List.all_append, hletter, e.sign.all_isLiteralChar,
      Digits.all_isLiteralChar e.all_digits, Bool.and_self]

theorem Numeral.all_isLiteralChar (n : Numeral) : n.text.all isLiteralChar = true := by
  have hpoint : (pointText n.fraction).all isLiteralChar = true := by
    have hdigits := n.fraction_digits
    cases hf : n.fraction with
    | none => rfl
    | some ds =>
      rw [hf] at hdigits
      have hds : ds.all isLiteralChar = true := Digits.all_isLiteralChar hdigits
      exact hds
  simp only [Numeral.text, List.all_append, Digits.all_isLiteralChar n.whole_digits, hpoint,
    Exponent.all_isLiteralChar, Bool.and_self]

theorem Literal.all_isLiteralChar (lit : Literal) : lit.text.all isLiteralChar = true := by
  cases lit with
  | notANumber => rfl
  | infinity sign => cases sign <;> rfl
  | decimal sign n =>
    simp only [Literal.text, List.all_append, sign.all_isLiteralChar, n.all_isLiteralChar,
      Bool.and_self]

theorem Literal.not_mem_text (lit : Literal) {c : Char} (h : isLiteralChar c = false) :
    c ∉ lit.text := by
  intro hc
  rw [List.all_eq_true.mp lit.all_isLiteralChar c hc] at h
  cases h

theorem isBlank_of_isDigit {c : Char} (h : c.isDigit = true) : isBlank c = false := by
  obtain ⟨hlow, hhigh⟩ : 48 ≤ c.toNat ∧ c.toNat ≤ 57 := Char.isDigit_iff_toNat.mp h
  -- no range of blanks reaches into the digits
  have hapart : ∀ r ∈ blankRanges, r.2 < 48 ∨ 57 < r.1 := by decide
  rw [isBlank, Ranges.contains, List.any_eq_false]
  intro r hr
  have hr := hapart r hr
  simp only [Bool.and_eq_true, decide_eq_true_eq]
  omega

theorem isBlank_of_isLiteralChar {c : Char} (h : isLiteralChar c = true) : isBlank c = false := by
  rcases Bool.or_eq_true_iff.mp h with h | h
  · exact isBlank_of_isDigit h
  · have hmarks : marks.all (fun d => !isBlank d) = true := by decide
    simpa using List.all_eq_true.mp hmarks c (List.contains_iff_mem.mp h)

theorem Literal.trimmed_text (lit : Literal) : Trimmed lit.text := by
  have hblank : ∀ c ∈ lit.text, isBlank c = false := fun c hc =>
    isBlank_of_isLiteralChar (List.all_eq_true.mp lit.all_isLiteralChar c hc)
  exact ⟨fun c hc => hblank c (List.mem_of_mem_head? hc),
    fun c hc => hblank c (List.mem_of_mem_getLast? hc)⟩

theorem Literal.text_ne_nil (lit : Literal) : lit.text ≠ [] := by
  cases lit with
  | notANumber => decide
  | infinity sign => cases sign <;> decide
  | decimal sign n =>
    obtain ⟨c, rest, htext, -⟩ := n.head_text
    simp [Literal.text, htext]

theorem read_of_trimmed {cs : List Char} (h : Trimmed cs) :
    read cs =
      if cs = notANumber then some .nan
      else if (splitSign cs).2 = infinity then some (.infinite (splitSign cs).1)
      else (readDecimal (splitSign cs).2).map (·.toBinary64 (splitSign cs).1) := by
  unfold read
  rw [h.trim_eq]

theorem read_trim (cs : List Char) : read (trim cs) = read cs := by
  unfold read
  rw [trim_trim]

theorem read_literal {cs : List Char} {lit : Literal} (h : trim cs = lit.text) :
    read cs = some lit.value := by
  rw [← read_trim, read_of_trimmed (trimmed_trim cs), h]
  cases lit with
  | notANumber => rfl
  | infinity sign => cases sign <;> rfl
  | decimal sign n =>
    have hne : sign.text ++ n.text ≠ notANumber := by
      cases sign with
      | absent => exact n.text_ne_cons _ (by decide) (by decide)
      | plus => nofun
      | minus => nofun
    have hinf : n.text ≠ infinity := n.text_ne_cons _ (by decide) (by decide)
    have htext : (Literal.decimal sign n).text = sign.text ++ n.text := rfl
    rw [htext, if_neg hne, splitSign_append sign n.unsigned_text, if_neg hinf, readDecimal_text]
    exact congrArg some (Decimal.toBinary64_eq ..)

theorem read_eq_some_iff {cs : List Char} {x : Binary64} :
    read cs = some x ↔ ∃ lit : Literal, trim cs = lit.text ∧ x = lit.value := by
  constructor
  · intro h
    rw [← read_trim, read_of_trimmed (trimmed_trim cs)] at h
    split at h
    · rename_i hnan
      cases h
      exact ⟨.notANumber, hnan, rfl⟩
    obtain ⟨sign, htext, hneg⟩ := exists_sign (trim cs)
    split at h
    · rename_i hinf
      cases h
      rw [hinf] at htext
      exact ⟨.infinity sign, htext, congrArg Binary64.infinite hneg⟩
    · obtain ⟨d, hd, rfl⟩ := Option.map_eq_some_iff.mp h
      obtain ⟨n, hn, rfl⟩ := exists_numeral hd
      rw [hn] at htext
      exact ⟨.decimal sign n, htext, by rw [Decimal.toBinary64_eq, hneg]; rfl⟩
  · rintro ⟨lit, htext, rfl⟩
    exact read_literal htext

end WindSymbols.Speed
