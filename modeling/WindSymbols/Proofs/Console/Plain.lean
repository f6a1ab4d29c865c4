import WindSymbols.Console.Markup
import WindSymbols.Proofs.Locator.SpeedText

/-! What markup leaves alone. Tags, codes of emoji and escapes need a bracket, a colon or a
backslash, so that a text without them is shown as it is (`plain_of_unmarked`), and numbers are such
texts. Only a closing tag can be at fault, so that a text without an opening bracket is always shown
(`exists_plain`). -/

namespace WindSymbols

namespace Markup

def isUnmarked (c : Char) : Bool := c ≠ '\\' && c ≠ '[' && c ≠ ':' && !isControl c

theorem isUnmarked_iff {c : Char} :
    isUnmarked c = true ↔ c ≠ '\\' ∧ c ≠ '[' ∧ c ≠ ':' ∧ isControl c = false := by
  simp [isUnmarked, and_assoc]

def Unmarked (s : String) : Prop := s.toList.all isUnmarked = true

instance (s : String) : Decidable (Unmarked s) := inferInstanceAs (Decidable (_ = true))

theorem Unmarked.append {s t : String} (hs : Unmarked s) (ht : Unmarked t) : Unmarked (s ++ t) := by
  unfold Unmarked at *
  rw [String.toList_append, List.all_append, hs, ht, Bool.and_self]

theorem Unmarked.intercalate {separator : String} (hseparator : Unmarked separator)
    {texts : List String} (h : ∀ text ∈ texts, Unmarked text) :
    Unmarked (separator.intercalate texts) := by
  induction texts with
  | nil =>
    rw [String.intercalate_nil]
    decide
  | cons text rest ih =>
    have htext := h text List.mem_cons_self
    have hrest := ih fun t ht => h t (List.mem_cons_of_mem text ht)
    cases rest with
    | nil => rwa [String.intercalate_singleton]
    | cons next rest =>
      rw [String.intercalate_cons_cons]
      exact (htext.append hseparator).append hrest

theorem pieces_of_no_bracket {cs : List Char} (h : '[' ∉ cs) (passed : Nat) :
    pieces passed cs = (backslashes passed ++ cs, []) := by
  induction cs generalizing passed with
  | nil => rw [pieces, List.append_nil]
  | cons c rest ih =>
    obtain ⟨hc, hrest⟩ := not_or.mp (mt List.mem_cons.mpr h)
    rw [pieces, if_neg (Ne.symm hc), ih hrest, ih hrest]
    split
    · rename_i hbackslash
      rw [hbackslash, backslashes, backslashes, List.replicate_succ', List.append_assoc,
        List.singleton_append]
    · rfl

theorem showEmoji_of_no_colon {cs : List Char} (h : ':' ∉ cs) : showEmoji cs = cs := by
  induction cs with
  | nil => rw [showEmoji]
  | cons c rest ih =>
    obtain ⟨hc, hrest⟩ := not_or.mp (mt List.mem_cons.mpr h)
    rw [showEmoji, if_neg (Ne.symm hc), ih hrest]

theorem plainChars_of_no_bracket {cs : List Char} (h : '[' ∉ cs) :
    plainChars cs = .ok ((showEmoji cs).filter (!isControl ·)) := by
  unfold plainChars
  rw [pieces_of_no_bracket h, backslashes, List.replicate_zero, List.nil_append]
  simp only [shown, Except.map, List.append_nil]

theorem exists_plain {s : String} (h : '[' ∉ s.toList) : ∃ t, plain s = .ok t := by
  unfold plain
  rw [plainChars_of_no_bracket h]
  exact ⟨_, rfl⟩

theorem plain_of_unmarked {s : String} (h : Unmarked s) : plain s = .ok s := by
  have hall : ∀ c ∈ s.toList, c ≠ '\\' ∧ c ≠ '[' ∧ c ≠ ':' ∧ isControl c = false := fun c hc =>
    isUnmarked_iff.mp (List.all_eq_true.mp h c hc)
  have hbracket : '[' ∉ s.toList := fun hc => (hall _ hc).2.1 rfl
  have hcolon : ':' ∉ s.toList := fun hc => (hall _ hc).2.2.1 rfl
  have hshown : s.toList.filter (!isControl ·) = s.toList := by
    rw [List.filter_eq_self]
    intro c hc
    rw [(hall c hc).2.2.2, Bool.not_false]
  unfold plain
  rw [plainChars_of_no_bracket hbracket, showEmoji_of_no_colon hcolon, hshown]
  exact congrArg Except.ok String.ofList_toList

end Markup

/-! Numbers in whatever style are made of the characters of literals. -/

theorem isUnmarked_of_isLiteralChar {c : Char} (h : Speed.isLiteralChar c = true) :
    Markup.isUnmarked c = true := by
  have hother : ∀ d : Char, Speed.isLiteralChar d = false → c ≠ d := by
    rintro d hd rfl
    rw [h] at hd
    cases hd
  refine Markup.isUnmarked_iff.mpr
    ⟨hother _ (by decide), hother _ (by decide), hother _ (by decide), ?_⟩
  have hcontrols : ∀ n ∈ [7, 8, 11, 12, 13], Speed.isLiteralChar (Char.ofNat n) = false := by decide
  rw [Markup.isControl, Bool.eq_false_iff]
  intro hcontrol
  refine hother _ (hcontrols c.toNat (List.contains_iff_mem.mp hcontrol)) ?_
  rw [Char.ofNat_toNat]

def Numeric (s : String) : Prop := s.toList.all Speed.isLiteralChar = true

theorem Numeric.unmarked {s : String} (h : Numeric s) : Markup.Unmarked s :=
  List.all_eq_true.mpr fun c hc => isUnmarked_of_isLiteralChar (List.all_eq_true.mp h c hc)

theorem Numeric.not_mem {s : String} (h : Numeric s) {c : Char}
    (hc : Speed.isLiteralChar c = false) : c ∉ s.toList := by
  intro hmem
  rw [List.all_eq_true.mp h c hmem] at hc
  cases hc

theorem all_isLiteralChar_of_subset {cs ds : List Char} (h : ds.all Speed.isLiteralChar = true)
    (hsubset : cs ⊆ ds) : cs.all Speed.isLiteralChar = true :=
  List.all_eq_true.mpr fun c hc => List.all_eq_true.mp h c (hsubset hc)

namespace Layout

theorem all_isLiteralChar_padded (n width : Nat) :
    (List.replicate (width - (digitsOf n).length) '0' ++ digitsOf n).all Speed.isLiteralChar =
      true := by
  refine Speed.Digits.all_isLiteralChar fun c hc => ?_
  rcases List.mem_append.mp hc with hzero | hdigit
  · rw [List.eq_of_mem_replicate hzero]
    rfl
  · exact digits_digitsOf n c hdigit

theorem all_isLiteralChar_integer (n : Int) : (integer n).all Speed.isLiteralChar = true := by
  have hdigits := Speed.Digits.all_isLiteralChar (digits_digitsOf n.natAbs)
  unfold integer
  split
  · rw [List.all_cons, hdigits, Bool.and_true]
    decide
  · exact hdigits

theorem all_isLiteralChar_fixed (coefficient places : Nat) :
    (fixed coefficient places).all Speed.isLiteralChar = true := by
  have hpadded := all_isLiteralChar_padded coefficient (places + 1)
  unfold fixed
  split
  · exact hpadded
  · rw [List.all_append, List.all_cons,
      all_isLiteralChar_of_subset hpadded (List.take_subset _ _),
      all_isLiteralChar_of_subset hpadded (List.drop_subset _ _)]
    decide

theorem all_isLiteralChar_trimFraction {cs : List Char} (h : cs.all Speed.isLiteralChar = true) :
    (trimFraction cs).all Speed.isLiteralChar = true := by
  have hkept : (cs.reverse.dropWhile (· == '0')).all Speed.isLiteralChar = true :=
    all_isLiteralChar_of_subset h fun c hc =>
      List.mem_reverse.mp ((List.dropWhile_sublist _).subset hc)
  unfold trimFraction
  split
  · rw [List.all_reverse]
    split
    · exact all_isLiteralChar_of_subset hkept (List.tail_subset _)
    · exact hkept
  · exact h

theorem all_isLiteralChar_exponent (width : Nat) (power : Int) :
    (exponent width power).all Speed.isLiteralChar = true := by
  have hletter : Speed.isLiteralChar 'e' = true := by decide
  have hsign : Speed.isLiteralChar (if power < 0 then '-' else '+') = true := by
    split <;> decide
  simp only [exponent, List.cons_append, List.all_cons, hletter, hsign, all_isLiteralChar_padded,
    Bool.and_self]

end Layout

theorem numeric_integerText (n : Int) : Numeric (integerText n) := by
  unfold Numeric integerText
  rw [String.toList_ofList]
  exact Layout.all_isLiteralChar_integer n

theorem numeric_textWith {magnitude : Magnitude → List Char}
    (h : ∀ m, (magnitude m).all Speed.isLiteralChar = true) (x : Binary64) :
    Numeric (.ofList (x.textWith magnitude)) := by
  have hsign : ∀ s, (Layout.sign s).all Speed.isLiteralChar = true := by decide
  unfold Numeric
  rw [String.toList_ofList]
  cases x with
  | nan => rfl
  | infinite s =>
    rw [Binary64.textWith, List.all_append, hsign, Bool.true_and]
    decide
  | finite s m => rw [Binary64.textWith, List.all_append, hsign, h, Bool.and_self]

theorem all_isLiteralChar_write (style : NumberStyle) (d : Decimal) :
    (style.write d).all Speed.isLiteralChar = true := by
  obtain ⟨n, htext, -⟩ := Speed.write_numeral style d
  rw [htext]
  exact n.all_isLiteralChar

theorem numeric_briefText (x : Binary64) : Numeric x.briefText :=
  numeric_textWith (fun _ => all_isLiteralChar_write ..) x

theorem numeric_fixedText (places : Nat) (x : Binary64) : Numeric (x.fixedText places) :=
  numeric_textWith (fun _ => Layout.all_isLiteralChar_fixed ..) x

theorem numeric_text (x : Scalar) : Numeric x.text := by
  cases x with
  | whole n => exact numeric_integerText n
  | real x => exact numeric_textWith (fun _ => all_isLiteralChar_write ..) x

end WindSymbols
