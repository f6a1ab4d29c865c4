import WindSymbols.Proofs.Failure
import WindSymbols.Proofs.Number.Order
import WindSymbols.Velocity.Readings

/-! Knots per unit. Every unit that is accepted, from the table or as an expression, has a finite
positive factor (`isPositive_of_knotsFactor`), so a speed in knots is NaN or infinite where the
speed itself is, and it is never turned around. -/

namespace WindSymbols

open Text Binary64

theorem Binary64.isPositive_iff {x : Binary64} :
    x.IsPositive ↔ x.isFinite = true ∧ (0 : Binary64).lt x = true := by
  constructor
  · rintro ⟨m, rfl, hm⟩
    refine ⟨rfl, ?_⟩
    have hlt : (0 : Binary64) < finite false m := by
      rw [literal_eq (Nat.zero_le _), finite_lt_iff]
      simpa using hm
    exact hlt
  · rintro ⟨hfinite, hlt⟩
    have hlt : (0 : Binary64) < x := hlt
    cases x with
    | nan => cases hfinite
    | infinite => cases hfinite
    | finite s m =>
      rw [literal_eq (Nat.zero_le _), finite_lt_iff, wholeMagnitude_units, Nat.zero_mul] at hlt
      cases s with
      | false => exact ⟨m, rfl, by simpa using hlt⟩
      | true =>
        simp only [signed_false, signed_true] at hlt
        omega

theorem isPositive_of_mem_reportUnits {u : ReportUnit} (h : u ∈ reportUnits) :
    u.knots.IsPositive := by
  have hall : reportUnits.all (fun u => u.knots.isFinite && (0 : Binary64).lt u.knots) = true := by
    decide +kernel
  have hu := List.all_eq_true.mp hall u h
  exact isPositive_iff.mpr (Bool.and_eq_true_iff.mp hu)

section

variable [UnitLibrary]

theorem isPositive_of_expressionFactor {unit : List Char} {factor : Binary64}
    (h : expressionFactor unit = .ok factor) : factor.IsPositive := by
  unfold expressionFactor at h
  split at h
  · cases h
  · split at h
    · rename_i hpositive
      cases h
      exact isPositive_iff.mpr (Bool.and_eq_true_iff.mp hpositive)
    · cases h

theorem isPositive_of_knotsFactor {unit : Option String} {factor : Binary64}
    (h : knotsFactor unit = .ok factor) : factor.IsPositive := by
  unfold knotsFactor at h
  split at h
  · cases h
  · dsimp only at h
    split at h
    · cases h
    · split at h
      · rename_i hknown
        cases h
        exact isPositive_of_mem_reportUnits (List.mem_of_find?_eq_some hknown)
      · exact isPositive_of_expressionFactor (mapError_eq_ok_iff.mp h)

theorem knotsFactor_eq_error {unit : Option String} {e : SymbolError}
    (h : knotsFactor unit = .error e) : ∃ name fault, e = .unsupportedUnit name fault := by
  unfold knotsFactor at h
  split at h
  · cases h
    exact ⟨none, .notGiven, rfl⟩
  · rename_i name
    dsimp only at h
    split at h
    · cases h
      exact ⟨some name, .notGiven, rfl⟩
    · split at h
      · cases h
      · obtain ⟨fault, -, rfl⟩ := mapError_eq_error_iff.mp h
        exact ⟨_, fault, rfl⟩

theorem knotsFactor_eq_expressionFactor {name : String} (htrim : trim name.toList = name.toList)
    (hname : name.toList ≠ []) (hknown : reportUnit? name = none) :
    knotsFactor (some name) =
      (expressionFactor name.toList).mapError (.unsupportedUnit (some name)) := by
  unfold knotsFactor
  dsimp only
  rw [htrim, if_neg hname, hknown, String.ofList_toList]

theorem knotsFactor_of_unknown {name : String} (htrim : trim name.toList = name.toList)
    (hname : name.toList ≠ []) (hknown : reportUnit? name = none)
    (h : Velocity.measure? name.toList = none) :
    knotsFactor (some name) = .error
      (.unsupportedUnit (some name) (.unknown (UnitLibrary.refusal name.toList))) := by
  rw [knotsFactor_eq_expressionFactor htrim hname hknown]
  unfold expressionFactor
  rw [h]
  rfl

theorem speedInKnots_eq (speed : Binary64) (unit : String) :
    speedInKnots speed unit = (knotsFactor (some unit)).map (speed * ·) := by
  unfold speedInKnots
  cases knotsFactor (some unit) <;> rfl

theorem speedInKnots_of_factor {unit : String} {factor : Binary64}
    (h : knotsFactor (some unit) = .ok factor) (speed : Binary64) :
    speedInKnots speed unit = .ok (speed * factor) := by
  rw [speedInKnots_eq, h]
  rfl

theorem inKnots_of_factor {unit : Option String} {factor : Binary64}
    (h : knotsFactor unit = .ok factor) (x : Binary64) :
    (Scalar.real x).inKnots unit = .ok (x * factor) := by
  unfold Scalar.inKnots
  rw [h]
  rfl

end

end WindSymbols
