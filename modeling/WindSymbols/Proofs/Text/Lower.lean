import WindSymbols.Proofs.Text.Trim
import WindSymbols.Text.Name

/-! Lower-case text. What lower-casing writes has no upper-case letter left (`isLower_of_mem_lower`),
so doing it twice is doing it once. Characters that are no letters are neither made nor lost
(`mem_lower_iff`); blanks are such characters, so lower-casing keeps trimmed text trimmed. -/

namespace WindSymbols.Text

namespace CaseRange

def lowFirst (r : CaseRange) : Nat := (r.first + r.shift).toNat

def lowLast (r : CaseRange) : Nat := (r.last + r.shift).toNat

def isApartFrom (r : CaseRange) (bounds : Nat × Nat) : Bool :=
  (r.last < bounds.1 || bounds.2 < r.first) && (r.lowLast < bounds.1 || bounds.2 < r.lowFirst)

/-- No lower-case letter of the first range belongs to the second: they lie apart, or alternate. -/
def isLowOutside (r other : CaseRange) : Bool :=
  r.lowLast.blt other.first || other.last.blt r.lowFirst ||
    ((r.stride == 2 || r.first == r.last) && other.stride == 2 &&
      (r.lowFirst + other.first) % 2 == 1)

def isLowValid (r : CaseRange) : Bool :=
  0 ≤ r.first + r.shift && (r.lowLast < 0xd800 || (0xdfff < r.lowFirst && r.lowLast < 0x110000))

end CaseRange

theorem isLowValid_lowerRanges : lowerRanges.all (·.isLowValid) = true := by decide

theorem isLowOutside_lowerRanges :
    lowerRanges.all (fun r => lowerRanges.all (r.isLowOutside ·)) = true := by decide +kernel

theorem lowerChar_cases (c : Char) :
    (lowerChar c = c ∧ ∀ r ∈ lowerRanges, r.contains c = false) ∨
      ∃ r ∈ lowerRanges, r.contains c = true ∧ ((lowerChar c).toNat : Int) = c.toNat + r.shift := by
  unfold lowerChar
  cases hfind : lowerRanges.find? (·.contains c) with
  | none =>
    refine .inl ⟨rfl, fun r hr => ?_⟩
    simpa using List.find?_eq_none.mp hfind r hr
  | some r =>
    have hr := List.mem_of_find?_eq_some hfind
    have hc : r.contains c = true := by simpa using List.find?_some hfind
    refine .inr ⟨r, hr, hc, ?_⟩
    have hvalid := List.all_eq_true.mp isLowValid_lowerRanges r hr
    simp only [CaseRange.isLowValid, Bool.and_eq_true, Bool.or_eq_true, decide_eq_true_eq] at hvalid
    simp only [CaseRange.lowFirst, CaseRange.lowLast] at hvalid
    simp only [CaseRange.contains, Bool.and_eq_true, decide_eq_true_eq] at hc
    have hchar : (c.toNat + r.shift).toNat.isValidChar := by
      unfold Nat.isValidChar
      omega
    have hnat : (Char.ofNat (c.toNat + r.shift).toNat).toNat = (c.toNat + r.shift).toNat := by
      rw [Char.ofNat, dif_pos hchar]
      rfl
    dsimp only
    omega

theorem contains_eq_false_of_isLowOutside {r other : CaseRange} {c d : Char}
    (hvalid : r.isLowValid = true) (hc : r.contains c = true) (hd : (d.toNat : Int) = c.toNat + r.shift)
    (h : r.isLowOutside other = true) : other.contains d = false := by
  simp only [CaseRange.contains, Bool.and_eq_true, decide_eq_true_eq, beq_iff_eq] at hc
  simp only [CaseRange.isLowOutside, Bool.and_eq_true, Bool.or_eq_true, Nat.blt_eq,
    beq_iff_eq] at h
  simp only [CaseRange.lowFirst, CaseRange.lowLast] at h
  simp only [CaseRange.isLowValid, Bool.and_eq_true, decide_eq_true_eq] at hvalid
  obtain ⟨hpos, -⟩ := hvalid
  rw [Bool.eq_false_iff]
  intro hmem
  simp only [CaseRange.contains, Bool.and_eq_true, decide_eq_true_eq, beq_iff_eq] at hmem
  obtain ⟨⟨hfirst, hlast⟩, hstride⟩ := hc
  obtain ⟨⟨hfirst', hlast'⟩, hstride'⟩ := hmem
  rcases h with (h | h) | ⟨⟨h | h, hother⟩, hodd⟩
  · omega
  · omega
  · -- both ranges take every second code point, and they alternate
    rw [h] at hstride
    rw [hother] at hstride'
    omega
  · rw [hother] at hstride'
    omega

/-- A character that lower-casing leaves alone, wherever it stands. -/
def IsLower (c : Char) : Prop := lowerChar c = c ∧ c ≠ 'Σ' ∧ c ≠ 'İ'

instance (c : Char) : Decidable (IsLower c) := inferInstanceAs (Decidable (_ ∧ _))

theorem isLower_lowerChar {c : Char} (hsigma : c ≠ 'Σ') (hdotted : c ≠ 'İ') :
    IsLower (lowerChar c) := by
  rcases lowerChar_cases c with ⟨heq, -⟩ | ⟨r, hr, hc, hlow⟩
  · rw [heq]
    exact ⟨heq, hsigma, hdotted⟩
  · have hvalid := List.all_eq_true.mp isLowValid_lowerRanges r hr
    have hpairs := List.all_eq_true.mp (List.all_eq_true.mp isLowOutside_lowerRanges r hr)
    have houtside : ∀ other ∈ lowerRanges, other.contains (lowerChar c) = false := fun other ho =>
      contains_eq_false_of_isLowOutside hvalid hc hlow (hpairs other ho)
    refine ⟨?_, ?_, ?_⟩
    · rcases lowerChar_cases (lowerChar c) with ⟨heq, -⟩ | ⟨other, ho, hmem, -⟩
      · exact heq
      · rw [houtside other ho] at hmem
        cases hmem
    · intro heq
      have hmem : ∃ other ∈ lowerRanges, other.contains 'Σ' = true := by decide
      obtain ⟨other, ho, hmem⟩ := hmem
      rw [heq] at houtside
      rw [houtside other ho] at hmem
      cases hmem
    · intro heq
      have happart : ∀ r ∈ lowerRanges, r.isApartFrom ('İ'.toNat, 'İ'.toNat) = true := by
        decide +kernel
      have hapart := happart r hr
      rw [heq] at hlow
      simp only [CaseRange.contains, Bool.and_eq_true, decide_eq_true_eq] at hc
      simp only [CaseRange.isApartFrom, Bool.and_eq_true, Bool.or_eq_true,
        decide_eq_true_eq] at hapart
      simp only [CaseRange.lowFirst, CaseRange.lowLast] at hapart
      omega

theorem isLower_of_mem_lowerBetween {before after : List Char} {c d : Char}
    (h : d ∈ lowerBetween before c after) : IsLower d := by
  unfold lowerBetween at h
  split at h
  · split at h <;> rw [List.mem_singleton.mp h] <;> decide
  · split at h
    · rcases List.mem_pair.mp h with rfl | rfl <;> decide
    · rw [List.mem_singleton.mp h]
      exact isLower_lowerChar ‹_› ‹_›

theorem mem_lowerAfter {before cs : List Char} {d : Char} (h : d ∈ lowerAfter before cs) :
    ∃ b c a, c ∈ cs ∧ d ∈ lowerBetween b c a := by
  induction cs generalizing before with
  | nil => cases h
  | cons c rest ih =>
    rcases List.mem_append.mp h with h | h
    · exact ⟨before, c, rest, List.mem_cons_self, h⟩
    · obtain ⟨b, e, a, he, hd⟩ := ih h
      exact ⟨b, e, a, List.mem_cons_of_mem c he, hd⟩

theorem isLower_of_mem_lower {cs : List Char} {d : Char} (h : d ∈ lower cs) : IsLower d := by
  obtain ⟨_, _, _, -, hd⟩ := mem_lowerAfter h
  exact isLower_of_mem_lowerBetween hd

theorem lowerBetween_of_isLower {before after : List Char} {c : Char} (h : IsLower c) :
    lowerBetween before c after = [c] := by
  unfold lowerBetween
  rw [if_neg h.2.1, if_neg h.2.2, h.1]

theorem lowerAfter_of_isLower {before cs : List Char} (h : ∀ c ∈ cs, IsLower c) :
    lowerAfter before cs = cs := by
  induction cs generalizing before with
  | nil => rfl
  | cons c rest ih =>
    have hrest : lowerAfter (c :: before) rest = rest :=
      ih fun d hd => h d (List.mem_cons_of_mem c hd)
    rw [lowerAfter, lowerBetween_of_isLower (h c List.mem_cons_self), hrest]
    rfl

theorem lower_of_isLower {cs : List Char} (h : ∀ c ∈ cs, IsLower c) : lower cs = cs :=
  lowerAfter_of_isLower h

theorem lower_lower (cs : List Char) : lower (lower cs) = lower cs :=
  lower_of_isLower fun _ => isLower_of_mem_lower

def specialLetters : List Char := ['Σ', 'İ', 'σ', 'ς', 'i', '\u0307']

def Caseless (ranges : Ranges) : Prop :=
  lowerRanges.all (fun r => ranges.all (r.isApartFrom ·)) = true ∧
    specialLetters.all (fun d => !ranges.contains d) = true

instance (ranges : Ranges) : Decidable (Caseless ranges) := inferInstanceAs (Decidable (_ ∧ _))

theorem caseless_blankRanges : Caseless blankRanges := by decide +kernel

theorem Caseless.isApartFrom {ranges : Ranges} (h : Caseless ranges) {r : CaseRange}
    (hr : r ∈ lowerRanges) {bounds : Nat × Nat} (hbounds : bounds ∈ ranges) :
    r.isApartFrom bounds = true :=
  List.all_eq_true.mp (List.all_eq_true.mp h.1 r hr) bounds hbounds

theorem Caseless.contains_eq_false {ranges : Ranges} (h : Caseless ranges) {d : Char}
    (hd : d ∈ specialLetters) : ranges.contains d = false := by
  simpa using List.all_eq_true.mp h.2 d hd

theorem Caseless.contains_special {ranges : Ranges} (h : Caseless ranges) {d e : Char}
    (hd : d ∈ specialLetters) (he : e ∈ specialLetters) :
    ranges.contains d = ranges.contains e := by
  rw [h.contains_eq_false hd, h.contains_eq_false he]

theorem contains_lowerChar {ranges : Ranges} (h : Caseless ranges) (c : Char) :
    ranges.contains (lowerChar c) = ranges.contains c := by
  rcases lowerChar_cases c with ⟨heq, -⟩ | ⟨r, hr, hc, hlow⟩
  · rw [heq]
  · simp only [CaseRange.contains, Bool.and_eq_true, decide_eq_true_eq] at hc
    have houtside : ∀ d : Char, (d = c ∨ d = lowerChar c) → ranges.contains d = false := by
      intro d hd
      rw [Ranges.contains, List.any_eq_false]
      intro bounds hbounds
      have hapart := h.isApartFrom hr hbounds
      simp only [CaseRange.isApartFrom, Bool.and_eq_true, Bool.or_eq_true,
        decide_eq_true_eq] at hapart
      simp only [CaseRange.lowFirst, CaseRange.lowLast] at hapart
      simp only [Bool.and_eq_true, decide_eq_true_eq]
      rcases hd with rfl | rfl <;> omega
    rw [houtside c (.inl rfl), houtside _ (.inr rfl)]

theorem contains_of_mem_lowerBetween {ranges : Ranges} (h : Caseless ranges)
    {before after : List Char} {c d : Char} (hd : d ∈ lowerBetween before c after) :
    ranges.contains d = ranges.contains c := by
  unfold lowerBetween at hd
  split at hd
  · rename_i hc
    subst hc
    split at hd <;> rw [List.mem_singleton.mp hd] <;>
      exact h.contains_special (by decide) (by decide)
  · split at hd
    · rename_i hc
      subst hc
      rcases List.mem_pair.mp hd with rfl | rfl <;>
        exact h.contains_special (by decide) (by decide)
    · rw [List.mem_singleton.mp hd]
      exact contains_lowerChar h c

theorem isBlank_of_mem_lowerBetween {before after : List Char} {c d : Char}
    (hd : d ∈ lowerBetween before c after) : isBlank d = isBlank c :=
  contains_of_mem_lowerBetween caseless_blankRanges hd

theorem lowerBetween_ne_nil (before : List Char) (c : Char) (after : List Char) :
    lowerBetween before c after ≠ [] := by
  unfold lowerBetween
  split
  · simp
  · split <;> simp

theorem contains_single {x c : Char} :
    Ranges.contains [(x.toNat, x.toNat)] c = true ↔ c = x := by
  simp only [Ranges.contains, List.any_cons, List.any_nil, Bool.or_false, Bool.and_eq_true,
    decide_eq_true_eq]
  rw [← Char.toNat_inj]
  omega

theorem isLower_of_caseless {x : Char} (h : Caseless [(x.toNat, x.toNat)]) : IsLower x := by
  have hne : ∀ d ∈ specialLetters, x ≠ d := by
    intro d hd heq
    have hin := contains_single.mpr heq.symm
    rw [h.contains_eq_false hd] at hin
    cases hin
  have hlow := contains_lowerChar h x
  rw [contains_single.mpr rfl] at hlow
  exact ⟨contains_single.mp hlow, hne _ (by simp [specialLetters]),
    hne _ (by simp [specialLetters])⟩

theorem mem_lowerAfter_of_isLower {before cs : List Char} {x : Char} (hx : IsLower x)
    (h : x ∈ cs) : x ∈ lowerAfter before cs := by
  induction cs generalizing before with
  | nil => cases h
  | cons c rest ih =>
    rw [lowerAfter, List.mem_append]
    rcases List.mem_cons.mp h with rfl | h
    · rw [lowerBetween_of_isLower hx]
      exact .inl List.mem_cons_self
    · exact .inr (ih h)

/-- A character that is no letter stands in a text if and only if it stands in lower case. -/
theorem mem_lower_iff {x : Char} (hx : Caseless [(x.toNat, x.toNat)]) {cs : List Char} :
    x ∈ lower cs ↔ x ∈ cs := by
  constructor
  · intro h
    obtain ⟨b, c, a, hc, hmem⟩ := mem_lowerAfter h
    have hin := contains_of_mem_lowerBetween hx hmem
    rw [contains_single.mpr rfl] at hin
    rwa [← contains_single.mp hin.symm]
  · exact mem_lowerAfter_of_isLower (isLower_of_caseless hx)

theorem lower_eq_nil_iff {cs : List Char} : lower cs = [] ↔ cs = [] := by
  cases cs with
  | nil => simp [lower, lowerAfter]
  | cons c rest => simp [lower, lowerAfter, lowerBetween_ne_nil]

theorem getLast?_lowerAfter {before cs : List Char} {d : Char}
    (h : (lowerAfter before cs).getLast? = some d) :
    ∃ b c a, cs.getLast? = some c ∧ d ∈ lowerBetween b c a := by
  induction cs generalizing before with
  | nil => cases h
  | cons c rest ih =>
    rw [lowerAfter, List.getLast?_append] at h
    cases hrest : (lowerAfter (c :: before) rest).getLast? with
    | some e =>
      rw [hrest] at h
      cases h
      obtain ⟨b, last, a, hlast, hmem⟩ := ih hrest
      exact ⟨b, last, a, by simp [List.getLast?_cons, hlast], hmem⟩
    | none =>
      rw [hrest] at h
      have hnil : rest = [] := by
        cases rest with
        | nil => rfl
        | cons e more =>
          rw [List.getLast?_eq_none_iff, lowerAfter] at hrest
          exact absurd (List.append_eq_nil_iff.mp hrest).1 (lowerBetween_ne_nil _ _ _)
      subst hnil
      exact ⟨before, c, [], rfl, List.mem_of_getLast? h⟩

theorem trimmed_lower {cs : List Char} (h : Trimmed cs) : Trimmed (lower cs) where
  head d hd := by
    cases cs with
    | nil => cases hd
    | cons c rest =>
      have hmem : d ∈ lowerBetween [] c rest := by
        rw [lower, lowerAfter, List.head?_append_of_ne_nil _ (lowerBetween_ne_nil _ _ _)] at hd
        exact List.mem_of_head? hd
      rw [isBlank_of_mem_lowerBetween hmem]
      exact h.head c rfl
  last d hd := by
    obtain ⟨b, c, a, hc, hmem⟩ := getLast?_lowerAfter hd
    rw [isBlank_of_mem_lowerBetween hmem]
    exact h.last c hc

theorem trim_lower_trim (cs : List Char) : trim (lower (trim cs)) = lower (trim cs) :=
  (trimmed_lower (trimmed_trim cs)).trim_eq

theorem nameKey_nameKey (s : String) : nameKey (nameKey s) = nameKey s := by
  rw [nameKey, nameKey, String.toList_ofList, trim_lower_trim, lower_lower]

end WindSymbols.Text
