import WindSymbols.Wind.Elements

/-! Splitting a speed into elements. Any two splits of one speed differ by exchanges: a long barb
for two short ones, a pennant for five long ones (`Tidy.exists_exchange`). The elements of a family
are those that no exchange makes fewer (`ofFamily?_eq_some_iff`), so they are the only ones of their
kind and fewer than any others of the same speed (`ElementCounts.ofFamily_fewest`). -/

namespace WindSymbols

namespace Elements

def count (e : Elements) : Int := e.pennants + e.longBarbs + e.shortBarbs

structure Drawable (e : Elements) : Prop where
  pennants : 0 ≤ e.pennants
  longBarbs : 0 ≤ e.longBarbs
  shortBarbs : 0 ≤ e.shortBarbs

/-- Too few barbs of a kind to be exchanged for a larger element. -/
structure Tidy (e : Elements) : Prop where
  longBarbs_nonneg : 0 ≤ e.longBarbs
  longBarbs_le : e.longBarbs ≤ 4
  shortBarbs_nonneg : 0 ≤ e.shortBarbs
  shortBarbs_le : e.shortBarbs ≤ 1

/-- Elements after some long barbs are exchanged for short ones, and some pennants for long ones. -/
def exchanged (e : Elements) (long pennants : Nat) : Elements :=
  ⟨e.pennants - pennants, e.longBarbs + 5 * pennants - long, e.shortBarbs + 2 * long⟩

theorem knots_eq (e : Elements) :
    e.knots = 50 * e.pennants + 10 * e.longBarbs + 5 * e.shortBarbs := by
  simp only [knots, pennantKnots, longBarbKnots, shortBarbKnots]
  omega

theorem count_exchanged (e : Elements) (long pennants : Nat) :
    (e.exchanged long pennants).count = e.count + long + 4 * pennants := by
  simp only [count, exchanged]
  omega

theorem exchanged_zero (e : Elements) : e.exchanged 0 0 = e := by
  simp [exchanged]

theorem Tidy.exists_exchange {d e : Elements} (he : e.Tidy) (hlong : 0 ≤ d.longBarbs)
    (hshort : 0 ≤ d.shortBarbs) (h : d.knots = e.knots) :
    ∃ long pennants, d = e.exchanged long pennants := by
  obtain ⟨hl, hl', hs, hs'⟩ := he
  rw [knots_eq, knots_eq] at h
  -- short barbs differ by an even number, and each pair of them is a long barb
  obtain ⟨long, hpairs⟩ : ∃ long : Nat, d.shortBarbs = e.shortBarbs + 2 * long :=
    ⟨((d.shortBarbs - e.shortBarbs) / 2).toNat, by omega⟩
  obtain ⟨pennants, hfives⟩ : ∃ pennants : Nat, d.longBarbs + long = e.longBarbs + 5 * pennants :=
    ⟨((d.longBarbs + long - e.longBarbs) / 5).toNat, by omega⟩
  refine ⟨long, pennants, ?_⟩
  obtain ⟨p, l, s⟩ := d
  simp only [exchanged, ElementsOf.mk.injEq]
  dsimp only at h hpairs hfives
  omega

theorem Tidy.count_lt {d e : Elements} (he : e.Tidy) (hd : d.Drawable) (h : d.knots = e.knots)
    (hne : d ≠ e) : e.count < d.count := by
  obtain ⟨long, pennants, rfl⟩ := he.exists_exchange hd.longBarbs hd.shortBarbs h
  rw [count_exchanged]
  refine Int.lt_of_not_ge fun hle => ?_
  obtain ⟨rfl, rfl⟩ : long = 0 ∧ pennants = 0 := by omega
  exact hne e.exchanged_zero

theorem Tidy.eq_of_knots_eq {d e : Elements} (he : e.Tidy) (hd : d.Tidy)
    (h : d.knots = e.knots) : d = e := by
  obtain ⟨long, pennants, rfl⟩ := he.exists_exchange hd.longBarbs_nonneg hd.shortBarbs_nonneg h
  have hlong := hd.longBarbs_le
  have hshort := hd.shortBarbs_le
  have hl := he.longBarbs_nonneg
  have hs := he.shortBarbs_nonneg
  simp only [exchanged] at hlong hshort
  obtain ⟨rfl, rfl⟩ : long = 0 ∧ pennants = 0 := by omega
  exact e.exchanged_zero

theorem ofFamily?_eq_none_iff {family : Int} :
    ofFamily? family = none ↔ family < 0 ∨ ¬ 5 ∣ family := by
  unfold ofFamily?
  split
  · rename_i hbad
    simp only [shortBarbKnots] at hbad
    exact iff_of_true rfl (by omega)
  · rename_i hgood
    simp only [shortBarbKnots] at hgood
    exact iff_of_false (Option.some_ne_none _) (by omega)

theorem ofFamily?_tidy {family : Int} {e : Elements} (h : ofFamily? family = some e) :
    0 ≤ e.pennants ∧ e.Tidy := by
  simp only [ofFamily?] at h
  split at h
  · cases h
  · cases h
    simp only [pennantKnots, longBarbKnots, shortBarbKnots] at *
    refine ⟨by omega, ?_⟩
    constructor <;> dsimp only <;> omega

theorem ofFamily?_eq_some_iff {family : Int} {e : Elements} :
    ofFamily? family = some e ↔ e.knots = family ∧ 0 ≤ e.pennants ∧ e.Tidy := by
  constructor
  · exact fun h => ⟨knots_ofFamily? h, ofFamily?_tidy h⟩
  · rintro ⟨rfl, hpennants, htidy⟩
    cases hd : ofFamily? e.knots with
    | none =>
      have hl := htidy.longBarbs_nonneg
      have hs := htidy.shortBarbs_nonneg
      rw [ofFamily?_eq_none_iff, knots_eq] at hd
      omega
    | some d =>
      rw [htidy.eq_of_knots_eq (ofFamily?_tidy hd).2 (knots_ofFamily? hd)]

end Elements

namespace ElementCounts

theorem ofFamily_whole_eq_ok_iff {family : Int} {c : ElementCounts} :
    ofFamily (.whole family) = .ok c ↔
      ∃ e, Elements.ofFamily? family = some e ∧ c = ofElements e := by
  cases he : Elements.ofFamily? family with
  | none => simp [ofFamily, he]
  | some e => simp [ofFamily_whole he, eq_comm]

theorem ofFamily_whole_eq_error_iff {family : Int} {fault : FamilyFault} :
    ofFamily (.whole family) = .error fault ↔
      Elements.ofFamily? family = none ∧ fault = .notAFamily := by
  cases he : Elements.ofFamily? family with
  | none => simp [ofFamily, he, eq_comm]
  | some e => simp [ofFamily_whole he]

theorem ofElements_injective : Function.Injective ofElements := by
  intro d e h
  obtain ⟨p, l, s⟩ := d
  obtain ⟨p', l', s'⟩ := e
  simpa [ofElements] using h

/-- The split of a whole number of knots. It fails for the numbers that are negative or no multiples
of five, and for no other reason. Otherwise the elements have the speed of the family. No other
elements of that speed are tidy, and any others that can be drawn are more. Tidy elements are
themselves the split of their speed. -/
theorem ofFamily_fewest :
    (∀ (family : Int) (fault : FamilyFault), ofFamily (.whole family) = .error fault ↔
      fault = .notAFamily ∧ (family < 0 ∨ ¬ 5 ∣ family)) ∧
    (∀ (family : Int) (c : ElementCounts), ofFamily (.whole family) = .ok c →
      ∃ e : Elements, c = ofElements e ∧ c.knots = .ok (.whole family) ∧ e.knots = family ∧
        e.Drawable ∧ e.Tidy ∧ (∀ d : Elements, d.Tidy → d.knots = family → d = e) ∧
        ∀ d : Elements, d.Drawable → d.knots = family → d ≠ e → e.count < d.count) ∧
    ∀ d : Elements, 0 ≤ d.pennants → d.Tidy → ofFamily (.whole d.knots) = .ok (ofElements d) := by
  refine ⟨fun family fault => ?_, fun family c h => ?_, fun d hpennants htidy => ?_⟩
  · rw [ofFamily_whole_eq_error_iff, Elements.ofFamily?_eq_none_iff, and_comm]
  · obtain ⟨e, he, rfl⟩ := ofFamily_whole_eq_ok_iff.mp h
    obtain ⟨rfl, hpennants, htidy⟩ := Elements.ofFamily?_eq_some_iff.mp he
    exact ⟨e, rfl, knots_ofElements e, rfl,
      ⟨hpennants, htidy.longBarbs_nonneg, htidy.shortBarbs_nonneg⟩, htidy,
      fun d hd h => htidy.eq_of_knots_eq hd h, fun d hd h hne => htidy.count_lt hd h hne⟩
  · exact ofFamily_whole (Elements.ofFamily?_eq_some_iff.mpr ⟨rfl, hpennants, htidy⟩)

theorem ofFamily_fewest_of_seven :
    ofFamily (.whole 185) = .ok (ofElements ⟨3, 3, 1⟩) ∧
      ∀ d : Elements, d.Drawable → d.knots = 185 → d ≠ ⟨3, 3, 1⟩ → 7 < d.count := by
  have hsplit : ofFamily (.whole 185) = .ok (ofElements ⟨3, 3, 1⟩) :=
    ofFamily_fewest.2.2 ⟨3, 3, 1⟩ (by decide) ⟨by decide, by decide, by decide, by decide⟩
  obtain ⟨e, heq, -, -, -, -, -, hfewest⟩ := ofFamily_fewest.2.1 185 _ hsplit
  obtain rfl : ⟨3, 3, 1⟩ = e := ofElements_injective heq
  exact ⟨hsplit, hfewest⟩

end ElementCounts
end WindSymbols
