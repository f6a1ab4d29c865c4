import WindSymbols.Proofs.Number.Agreement
import WindSymbols.Proofs.Velocity.Knots

/-! One velocity under two units. The factors of the table and of unit expressions are close to exact
ones (`factor_close`), so that two units of one velocity have factors that agree to twelve digits,
and the speeds under them agree as well (`factors_agree`). The statute mile of the table stands
apart: it has six digits, and agrees with other spellings of the mile to six. -/

namespace WindSymbols

open Text Binary64

def ReportUnit.velocity (u : ReportUnit) : ℚ :=
  if u.name = "m/s" then 1
  else if u.name = "km/h" then 1000 / 3600
  else if u.name = "mph" then 1609344 / 3600000
  else 1852 / 3600

def isReportMile (unit : String) : Bool := nameKey unit = "mph"

def knotsPerMetre : ℚ := 3600 / 1852

section

variable (velocityOf : List Char → Option ℚ)

/-- What a unit denotes in metres per second, when unit expressions denote what is given. -/
def velocity? (unit : String) : Option ℚ :=
  match reportUnit? unit with
  | some known => some known.velocity
  | none => velocityOf (trim unit.toList)

/-- The factor of a unit expression is its velocity in knots, but for rounding. -/
def FactorsKeep [UnitLibrary] : Prop :=
  ∀ token velocity factor, velocityOf token = some velocity →
    expressionFactor token = .ok factor →
      |factor.toRat - velocity * knotsPerMetre| ≤ velocity * knotsPerMetre / 10 ^ 13

end

def factorError (unit : String) : ℚ := if isReportMile unit then 28 / 10 ^ 8 else 1 / 10 ^ 13

theorem factor_of_report_close {u : ReportUnit} (h : u ∈ reportUnits) :
    |u.knots.toRat - u.velocity * knotsPerMetre| ≤
      (if u.name = "mph" then 28 / 10 ^ 8 else 1 / 10 ^ 13) * (u.velocity * knotsPerMetre) := by
  have hall : ∀ u ∈ reportUnits, |u.knots.toRat - u.velocity * knotsPerMetre| ≤
      (if u.name = "mph" then 28 / 10 ^ 8 else 1 / 10 ^ 13) * (u.velocity * knotsPerMetre) := by
    decide +kernel
  exact hall u h

theorem factor_close [UnitLibrary] {velocityOf : List Char → Option ℚ} (hkeep : FactorsKeep velocityOf)
    {unit : String} {factor : Binary64} {velocity : ℚ} (h : knotsFactor (some unit) = .ok factor)
    (hvelocity : velocity? velocityOf unit = some velocity) :
    |factor.toRat - velocity * knotsPerMetre| ≤
      factorError unit * (velocity * knotsPerMetre) := by
  unfold velocity? at hvelocity
  unfold knotsFactor at h
  dsimp only at h
  split at h
  · cases h
  cases hknown : reportUnit? unit with
  | some known =>
    rw [hknown] at h hvelocity
    cases h
    cases hvelocity
    have hname : known.name = nameKey unit := by
      simpa using List.find?_some hknown
    have hclose := factor_of_report_close (List.mem_of_find?_eq_some hknown)
    rw [hname] at hclose
    simpa [factorError, isReportMile] using hclose
  | none =>
    rw [hknown] at h hvelocity
    have hmile : isReportMile unit = false := by
      have hnone := List.find?_eq_none.mp hknown ⟨"mph", .ofRatio false 868976 1000000⟩
        (by simp [reportUnits])
      simpa [isReportMile, eq_comm] using hnone
    rw [factorError, hmile]
    have hfactor := mapError_eq_ok_iff.mp h
    have hclose := hkeep _ _ _ hvelocity hfactor
    simpa [div_eq_inv_mul] using hclose

theorem factor_of_known [UnitLibrary] {unit : String} {known : ReportUnit} {factor : Binary64}
    (hknown : reportUnit? unit = some known) (h : knotsFactor (some unit) = .ok factor) :
    factor = known.knots := by
  unfold knotsFactor at h
  dsimp only at h
  split at h
  · cases h
  · rw [hknown] at h
    exact (Except.ok.inj h).symm

theorem factor_of_miles [UnitLibrary] {a b : String} {f g : Binary64} (ha : knotsFactor (some a) = .ok f)
    (hb : knotsFactor (some b) = .ok g) (hamile : isReportMile a = true)
    (hbmile : isReportMile b = true) : f = g := by
  obtain ⟨mile, hmile⟩ : ∃ mile, reportUnits.find? (·.name = "mph") = some mile := ⟨_, rfl⟩
  have hknown : ∀ unit, isReportMile unit = true → reportUnit? unit = some mile := by
    intro unit hunit
    rw [reportUnit?, of_decide_eq_true hunit, hmile]
  rw [factor_of_known (hknown a hamile) ha, factor_of_known (hknown b hbmile) hb]

/-- To how many digits factors of one velocity agree: the statute mile of reports has six. -/
def sharedDigits (a b : String) : Nat := if isReportMile a = isReportMile b then 12 else 6

theorem factorError_pos (unit : String) : 0 < factorError unit := by
  unfold factorError
  split <;> norm_num

theorem factorError_le {a b : String} (h : ¬ (isReportMile a = true ∧ isReportMile b = true)) :
    1 + factorError a ≤ (1 + 3 / 10 ^ (sharedDigits a b + 1)) * (1 - factorError b) := by
  unfold factorError sharedDigits
  generalize isReportMile a = x, isReportMile b = y at h ⊢
  cases x
  · cases y <;> norm_num
  · cases y
    · norm_num
    · exact absurd ⟨rfl, rfl⟩ h

theorem sharedDigits_comm (a b : String) : sharedDigits a b = sharedDigits b a := by
  simp only [sharedDigits, eq_comm]

theorem sharedDigits_eq (a b : String) : sharedDigits a b = 12 ∨ sharedDigits a b = 6 := by
  unfold sharedDigits
  split
  · exact .inl rfl
  · exact .inr rfl

theorem factor_le [UnitLibrary] {velocityOf : List Char → Option ℚ} (hkeep : FactorsKeep velocityOf)
    {a b : String} {f g : Binary64} {velocity : ℚ} (ha : knotsFactor (some a) = .ok f)
    (hb : knotsFactor (some b) = .ok g) (hav : velocity? velocityOf a = some velocity)
    (hbv : velocity? velocityOf b = some velocity) :
    f.toRat ≤ (1 + 3 / 10 ^ (sharedDigits a b + 1)) * g.toRat := by
  have hone : (1 : ℚ) ≤ 1 + 3 / 10 ^ (sharedDigits a b + 1) := by
    have : (0 : ℚ) ≤ 3 / 10 ^ (sharedDigits a b + 1) := by positivity
    linarith
  have haclose := factor_close hkeep ha hav
  have hwpos : 0 ≤ velocity * knotsPerMetre :=
    nonneg_of_mul_nonneg_right (le_trans (abs_nonneg _) haclose) (factorError_pos a)
  by_cases hmiles : isReportMile a = true ∧ isReportMile b = true
  · rw [factor_of_miles ha hb hmiles.1 hmiles.2]
    exact le_mul_of_one_le_left (isPositive_of_knotsFactor hb).toRat_pos.le hone
  · exact le_of_close haclose (factor_close hkeep hb hbv) hwpos (factorError_le hmiles)
      (le_trans zero_le_one hone)

theorem inKnots_of_number [UnitLibrary] {unit : Option String} {factor x : Binary64} {speed : Scalar}
    (h : knotsFactor unit = .ok factor) (hx : speed.toBinary64 = .ok x) :
    speed.inKnots unit = .ok (x * factor) := by
  unfold Scalar.inKnots
  rw [h, hx]
  rfl

/-- One velocity has one factor, whichever way its unit is written, and one speed in knots: they
agree to twelve digits, or to six where one of the units is the statute mile of reports. Products
that are too small for so many digits may differ by one unit of the smallest number, and a product
beyond the largest number is taken to be just beyond it. -/
theorem factors_agree [UnitLibrary] {velocityOf : List Char → Option ℚ} (hkeep : FactorsKeep velocityOf)
    {a b : String} {f g : Binary64} {velocity : ℚ} (ha : knotsFactor (some a) = .ok f)
    (hb : knotsFactor (some b) = .ok g) (hav : velocity? velocityOf a = some velocity)
    (hbv : velocity? velocityOf b = some velocity) :
    AgreeTo (sharedDigits a b) 0 f.toRat g.toRat ∧
      ∀ (speed : Scalar) (x : Binary64), speed.toBinary64 = .ok x → x.isFinite = true →
        ∃ y z, speed.inKnots (some a) = .ok y ∧ speed.inKnots (some b) = .ok z ∧
          AgreeTo (sharedDigits a b) (1 / unitsPerOne) y.placed z.placed := by
  have hf := isPositive_of_knotsFactor ha
  have hg := isPositive_of_knotsFactor hb
  have hfg := factor_le hkeep ha hb hav hbv
  have hgf := factor_le hkeep hb ha hbv hav
  rw [sharedDigits_comm] at hgf
  constructor
  · refine agreeTo_of_le hf.toRat_pos hg.toRat_pos hfg hgf ?_
    rcases sharedDigits_eq a b with h | h <;> rw [h] <;> norm_num
  · intro speed x hx hfinite
    refine ⟨_, _, inKnots_of_number ha hx, inKnots_of_number hb hx, ?_⟩
    refine mul_agreeTo hfinite hf hg hfg hgf (by positivity) ?_ ?_
    · rcases sharedDigits_eq a b with h | h <;> rw [h] <;> norm_num
    · rcases sharedDigits_eq a b with h | h <;> rw [h] <;> norm_num

theorem knotsFactor_of_expression [UnitLibrary] {name : String} {factor : Binary64}
    (htrim : trim name.toList = name.toList) (hname : name.toList ≠ [])
    (hknown : reportUnit? name = none) (h : expressionFactor name.toList = .ok factor) :
    knotsFactor (some name) = .ok factor := by
  rw [knotsFactor_eq_expressionFactor htrim hname hknown, h]
  rfl

/-- Velocities of three unit expressions, one of which is a detour. -/
def mileVelocity (token : List Char) : Option ℚ :=
  if token = "mile/hour".toList then some (1609344 / 3600000)
  else if token = "mile/second".toList then some (1609344 / 1000)
  else if token = "mi*dm**2/(cm*m*s)".toList then some (1609344 / 1000)
  else none

theorem expressionFactor_mile_hour :
    expressionFactor "mile/hour".toList = .ok (.ofRatio false 7827042158435145 (twoTo 53)) := by
  decide +kernel

theorem expressionFactor_mile_second :
    expressionFactor "mile/second".toList = .ok (.ofRatio false 6879236272062139 (twoTo 41)) := by
  decide +kernel

theorem expressionFactor_detour :
    expressionFactor "mi*dm**2/(cm*m*s)".toList =
      .ok (.ofRatio false 6879236272062142 (twoTo 41)) := by
  decide +kernel

theorem knotsFactor_mile_hour :
    knotsFactor (some "mile/hour") = .ok (.ofRatio false 7827042158435145 (twoTo 53)) :=
  knotsFactor_of_expression (by decide) (by decide) (by decide) expressionFactor_mile_hour

theorem knotsFactor_mile_second :
    knotsFactor (some "mile/second") = .ok (.ofRatio false 6879236272062139 (twoTo 41)) :=
  knotsFactor_of_expression (by decide) (by decide) (by decide) expressionFactor_mile_second

theorem knotsFactor_detour :
    knotsFactor (some "mi*dm**2/(cm*m*s)") = .ok (.ofRatio false 6879236272062142 (twoTo 41)) :=
  knotsFactor_of_expression (by decide) (by decide) (by decide) expressionFactor_detour

theorem factorsKeep_mileVelocity : FactorsKeep mileVelocity := by
  intro token velocity factor hvelocity hfactor
  unfold mileVelocity at hvelocity
  split at hvelocity
  · rename_i htoken
    rw [htoken, expressionFactor_mile_hour] at hfactor
    rw [← Option.some.inj hvelocity, ← Except.ok.inj hfactor]
    decide +kernel
  split at hvelocity
  · rename_i htoken
    rw [htoken, expressionFactor_mile_second] at hfactor
    rw [← Option.some.inj hvelocity, ← Except.ok.inj hfactor]
    decide +kernel
  split at hvelocity
  · rename_i htoken
    rw [htoken, expressionFactor_detour] at hfactor
    rw [← Option.some.inj hvelocity, ← Except.ok.inj hfactor]
    decide +kernel
  · cases hvelocity

/-- The statute mile of reports is not that of unit expressions. And for two expressions of one
velocity there are speeds so small that their results differ in the twelfth digit, and speeds so
large that one result is finite and the other is not. -/
theorem mile_factors_differ :
    FactorsKeep mileVelocity ∧
      (∃ f g velocity, knotsFactor (some "mph") = .ok f ∧ knotsFactor (some "mile/hour") = .ok g ∧
        velocity? mileVelocity "mph" = some velocity ∧
        velocity? mileVelocity "mile/hour" = some velocity ∧ ¬ AgreeTo 12 0 f.toRat g.toRat) ∧
      ∃ velocity, velocity? mileVelocity "mile/second" = some velocity ∧
        velocity? mileVelocity "mi*dm**2/(cm*m*s)" = some velocity ∧
        (∃ x y z : Binary64, x.isFinite = true ∧
          (Scalar.real x).inKnots (some "mile/second") = .ok y ∧
          (Scalar.real x).inKnots (some "mi*dm**2/(cm*m*s)") = .ok z ∧
          ¬ AgreeTo 12 0 y.toRat z.toRat) ∧
        ∃ x y z : Binary64, x.isFinite = true ∧
          (Scalar.real x).inKnots (some "mile/second") = .ok y ∧
          (Scalar.real x).inKnots (some "mi*dm**2/(cm*m*s)") = .ok z ∧
          y.isFinite = true ∧ z.isInfinite = true := by
  refine ⟨factorsKeep_mileVelocity, ?_, 1609344 / 1000, by decide +kernel, by decide +kernel, ?_,
    ?_⟩
  · refine ⟨_, _, 1609344 / 3600000, rfl, knotsFactor_mile_hour, by decide +kernel,
      by decide +kernel, ?_⟩
    unfold AgreeTo
    decide +kernel
  · refine ⟨.ofUnits false 133999684 1, _, _, by decide +kernel,
      inKnots_of_factor knotsFactor_mile_second _, inKnots_of_factor knotsFactor_detour _, ?_⟩
    unfold AgreeTo
    decide +kernel
  · refine ⟨.ofUnits false (5896703878604173 * twoTo 2034) 1, _, _, by decide +kernel,
      inKnots_of_factor knotsFactor_mile_second _, inKnots_of_factor knotsFactor_detour _, ?_⟩
    decide +kernel

theorem mile_seconds_agree :
    FactorsKeep mileVelocity ∧
      ∃ f g y z, knotsFactor (some "mile/second") = .ok f ∧
        knotsFactor (some "mi*dm**2/(cm*m*s)") = .ok g ∧ AgreeTo 12 0 f.toRat g.toRat ∧
        (Scalar.whole 10).inKnots (some "mile/second") = .ok y ∧
        (Scalar.whole 10).inKnots (some "mi*dm**2/(cm*m*s)") = .ok z ∧
        AgreeTo 12 (1 / unitsPerOne) y.placed z.placed := by
  have hvelocity : velocity? mileVelocity "mile/second" = some (1609344 / 1000) := by
    decide +kernel
  have hdetour : velocity? mileVelocity "mi*dm**2/(cm*m*s)" = some (1609344 / 1000) := by
    decide +kernel
  obtain ⟨hfactors, hspeeds⟩ := factors_agree factorsKeep_mileVelocity knotsFactor_mile_second
    knotsFactor_detour hvelocity hdetour
  have hten : (Scalar.whole 10).toBinary64 = .ok 10 := by decide +kernel
  obtain ⟨y, z, hy, hz, hyz⟩ := hspeeds (.whole 10) 10 hten (by decide +kernel)
  exact ⟨factorsKeep_mileVelocity, _, _, y, z, knotsFactor_mile_second, knotsFactor_detour,
    hfactors, hy, hz, hyz⟩

end WindSymbols
