import WindSymbols.Proofs.Velocity.Knots
import WindSymbols.Proofs.Wind.Classification
import WindSymbols.Proofs.Wind.Exchange

/-! The order of buckets. More wind is never put into a bucket of less wind, whatever unit it is
given in (`upTo_classify_inKnots`): the product with the factor of the unit, each rounded step of
the classification and the cut at the largest family keep the order of speeds. -/

namespace WindSymbols

open Binary64

/-- The order of buckets by their wind. There is no place in it for no data. -/
inductive Bucket.UpTo : Bucket → Bucket → Prop
  | calm : UpTo .calm .calm
  | calm_family (n : Int) : UpTo .calm (.ofFamily n)
  | calm_invalid : UpTo .calm .invalid
  | family {m n : Int} (h : m ≤ n) : UpTo (.ofFamily m) (.ofFamily n)
  | family_invalid (n : Int) : UpTo (.ofFamily n) .invalid
  | invalid : UpTo .invalid .invalid

theorem calm_upTo_classify {x : Binary64} (largest : Int) (h : x ≠ .nan) :
    Bucket.calm.UpTo (classify x (.whole largest)) := by
  rcases classify_cases x largest with hx | hx | hx | ⟨n, -, -, hx⟩
  · exact absurd (classify_eq_noData_iff.mp hx) h
  · rw [hx]
    exact .calm_invalid
  · rw [hx]
    exact .calm
  · rw [hx]
    exact .calm_family _

theorem classify_upTo_invalid {x : Binary64} (largest : Int) (h : x ≠ .nan) :
    (classify x (.whole largest)).UpTo .invalid := by
  rcases classify_cases x largest with hx | hx | hx | ⟨n, -, -, hx⟩
  · exact absurd (classify_eq_noData_iff.mp hx) h
  · rw [hx]
    exact .invalid
  · rw [hx]
    exact .calm_invalid
  · rw [hx]
    exact .family_invalid _

theorem upTo_classify_families {a b : Magnitude} (largest : Int) (ha : 3 * unitsPerOne ≤ a.units)
    (hab : a.units ≤ b.units) :
    (classify (finite false a) (.whole largest)).UpTo
      (classify (finite false b) (.whole largest)) := by
  have hfloor : familyUnits a.units / unitsPerOne ≤ familyUnits b.units / unitsPerOne :=
    Nat.div_le_div_right (familyUnits_mono hab)
  rw [classify_family largest ha, classify_family largest (Nat.le_trans ha hab)]
  split
  · rw [if_pos (by omega)]
    exact .invalid
  · split
    · exact .family_invalid _
    · exact .family (by omega)

theorem upTo_classify {x y : Binary64} (largest : Int) (hx : (0 : Binary64).AtMost x)
    (hxy : x.AtMost y) :
    (classify x (.whole largest)).UpTo (classify y (.whole largest)) := by
  rcases zero_atMost_cases hx with ⟨s, m, rfl, hm⟩ | ⟨m, rfl, -⟩ | rfl
  · have hcalm : finite s m < calmBelow := by
      rw [calmBelow_eq, finite_lt_iff, hm, wholeMagnitude_units]
      cases s <;> decide +kernel
    rw [classify_calm _ hcalm]
    exact calm_upTo_classify largest hxy.ne_nan
  · cases y with
    | nan => exact absurd rfl hxy.ne_nan
    | infinite t =>
      rw [classify_infinite]
      exact classify_upTo_invalid largest nofun
    | finite t n =>
      rw [finite_atMost_iff, signed_false] at hxy
      by_cases hcalm : finite false m < calmBelow
      · rw [classify_calm _ hcalm]
        exact calm_upTo_classify largest nofun
      · obtain ⟨-, hthree⟩ := three_le_of_not_lt hcalm
        have hone := unitsPerOne_pos
        cases t with
        | false => exact upTo_classify_families largest hthree (Int.ofNat_le.mp hxy)
        | true =>
          rw [signed_true] at hxy
          omega
  · rw [eq_infinite_of_atMost hxy, classify_infinite]
    exact .invalid

theorem exists_elements_of_classify {x : Binary64} {largest n : Int}
    (h : classify x (.whole largest) = .ofFamily n) :
    ∃ e, Elements.ofFamily? n = some e ∧ e.knots = n := by
  obtain ⟨k, rfl⟩ : ∃ k : Nat, n = 5 * (k : Int) := by
    rcases classify_cases x largest with hx | hx | hx | ⟨k, -, -, hx⟩ <;> rw [hx] at h <;> cases h
    exact ⟨k, rfl⟩
  have hsome : Elements.ofFamily? (5 * (k : Int)) ≠ none := by
    rw [Ne, Elements.ofFamily?_eq_none_iff]
    omega
  obtain ⟨e, he⟩ := Option.ne_none_iff_exists'.mp hsome
  exact ⟨e, he, Elements.knots_ofFamily? he⟩

/-- More wind never draws less wind. For two speeds from zero on, given in any unit that is
accepted, the buckets are in the order of the speeds, and so are the elements that families are
drawn with. -/
theorem upTo_classify_inKnots [UnitLibrary] {unit : Option String} {factor : Binary64}
    (hunit : knotsFactor unit = .ok factor) (largest : Int) {a b : Binary64}
    (ha : (0 : Binary64).AtMost a) (hab : a.AtMost b) :
    ∃ x y, (Scalar.real a).inKnots unit = .ok x ∧ (Scalar.real b).inKnots unit = .ok y ∧
      (classify x (.whole largest)).UpTo (classify y (.whole largest)) ∧
      ∀ m n, classify x (.whole largest) = .ofFamily m →
        classify y (.whole largest) = .ofFamily n →
          ∃ d e, Elements.ofFamily? m = some d ∧ Elements.ofFamily? n = some e ∧
            d.knots ≤ e.knots ∧ (d.knots < e.knots ↔ m < n) := by
  have hpositive := isPositive_of_knotsFactor hunit
  have hupTo := upTo_classify largest (zero_atMost_mul hpositive ha)
    (mul_atMost_mul hpositive ha hab)
  refine ⟨a * factor, b * factor, inKnots_of_factor hunit a, inKnots_of_factor hunit b, hupTo, ?_⟩
  intro m n hm hn
  obtain ⟨d, hd, hdm⟩ := exists_elements_of_classify hm
  obtain ⟨e, he, hen⟩ := exists_elements_of_classify hn
  rw [hm, hn] at hupTo
  cases hupTo with
  | family hmn => exact ⟨d, e, hd, he, by omega, by omega⟩

theorem fifty_upTo_hundred_kilometres :
    knotsFactor (some "km/h") = .ok (1000 / 1852) ∧
      ∃ x y, (Scalar.real 50).inKnots (some "km/h") = .ok x ∧
        (Scalar.real 100).inKnots (some "km/h") = .ok y ∧
        classify x (.whole 100) = .ofFamily 25 ∧ classify y (.whole 100) = .ofFamily 55 ∧
        (classify x (.whole 100)).UpTo (classify y (.whole 100)) ∧
        ∃ d e, Elements.ofFamily? 25 = some d ∧ Elements.ofFamily? 55 = some e ∧
          d.knots ≤ e.knots ∧ (d.knots < e.knots ↔ (25 : Int) < 55) := by
  have hunit : knotsFactor (some "km/h") = .ok (1000 / 1852) := rfl
  have ha : (0 : Binary64).AtMost 50 := .inl (by decide +kernel)
  have hab : (50 : Binary64).AtMost 100 := .inl (by decide +kernel)
  obtain ⟨x, y, hx, hy, hupTo, helements⟩ := upTo_classify_inKnots hunit 100 ha hab
  have hx' := Except.ok.inj (hx.symm.trans (inKnots_of_factor hunit 50))
  have hy' := Except.ok.inj (hy.symm.trans (inKnots_of_factor hunit 100))
  have hslow : classify x (.whole 100) = .ofFamily 25 := by
    rw [hx']
    decide +kernel
  have hfast : classify y (.whole 100) = .ofFamily 55 := by
    rw [hy']
    decide +kernel
  exact ⟨hunit, x, y, hx, hy, hslow, hfast, hupTo, helements 25 55 hslow hfast⟩

end WindSymbols
