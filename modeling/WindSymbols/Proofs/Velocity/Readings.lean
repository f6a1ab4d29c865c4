import WindSymbols.Proofs.Number.Overflow
import WindSymbols.Proofs.Velocity.Knots
import Mathlib.Data.List.Forall2

/-! Arrays of readings in knots. Whatever an array stores is made a double precision number as it
would be on its own: a real number is one, and a whole number is rounded to the nearest, which is
finite for 64 bits (`toBinary64s_roundsTo`). So an array is converted like each of its values, and
is refused for its unit alone (`inKnots_elementwise`). -/

namespace WindSymbols

open Binary64

def Scalar.RoundsTo : Scalar → Binary64 → Prop
  | whole n, y => y.IsNearest n ∧ y.isNegative = decide (n < 0)
  | real x, y => y = x

theorem inRange_toInt (n : Int64) : InRange (n.toInt : ℚ) := by
  have hlow := n.le_toInt
  have hhigh := n.toInt_lt
  have habs : |(n.toInt : ℚ)| ≤ 2 ^ 63 := by
    rw [abs_le]
    constructor
    · exact_mod_cast hlow
    · exact_mod_cast hhigh.le
  exact inRange_of_abs_le_pow (by omega) habs

theorem Scalar.inKnots_eq [UnitLibrary] {unit : Option String} (x : Scalar) :
    x.inKnots unit = match knotsFactor unit with
      | .error e => .error (.unit e)
      | .ok factor => (x.toBinary64.mapError .number).map (· * factor) := by
  unfold Scalar.inKnots
  cases knotsFactor unit with
  | error e => rfl
  | ok factor => cases x.toBinary64 <;> rfl

namespace Readings

theorem toBinary64s_roundsTo (readings : Readings) :
    List.Forall₂ (fun x y => x.toBinary64 = .ok y ∧ x.RoundsTo y) readings.scalars
      readings.toBinary64s := by
  cases readings with
  | doubles entries =>
    rw [scalars, toBinary64s, List.forall₂_map_left_iff, List.forall₂_same]
    exact fun x _ => ⟨rfl, rfl⟩
  | singles entries =>
    rw [scalars, toBinary64s, List.forall₂_map_left_iff, List.forall₂_map_right_iff,
      List.forall₂_same]
    exact fun x _ => ⟨rfl, rfl⟩
  | integers entries =>
    rw [scalars, toBinary64s, List.forall₂_map_left_iff, List.forall₂_map_right_iff,
      List.forall₂_same]
    intro n _
    exact ⟨toBinary64_whole_of_inRange (inRange_toInt n), isNearest_ofInt n.toInt,
      isNegative_ofInt n.toInt⟩

theorem inKnots_of_error [UnitLibrary] {unit : Option String} {e : SymbolError}
    (h : knotsFactor unit = .error e) (readings : Readings) :
    readings.inKnots unit = .error e := by
  rw [inKnots, h]
  rfl

theorem inKnots_of_ok [UnitLibrary] {unit : Option String} {factor : Binary64}
    (h : knotsFactor unit = .ok factor) (readings : Readings) :
    readings.inKnots unit = .ok (readings.toBinary64s.map (· * factor)) := by
  rw [inKnots, h]
  rfl

theorem inKnots_iff_of_toBinary64 [UnitLibrary] {unit : Option String} {factor y k : Binary64} {x : Scalar}
    (hunit : knotsFactor unit = .ok factor) (hx : x.toBinary64 = .ok y) :
    x.inKnots unit = .ok k ↔ y * factor = k := by
  rw [x.inKnots_eq, hunit, hx]
  exact ⟨Except.ok.inj, congrArg Except.ok⟩

theorem forall₂_inKnots_iff [UnitLibrary] {unit : Option String} {factor : Binary64} {scalars : List Scalar}
    {doubles knots : List Binary64} (hunit : knotsFactor unit = .ok factor)
    (h : List.Forall₂ (fun x y => x.toBinary64 = .ok y ∧ x.RoundsTo y) scalars doubles) :
    List.Forall₂ (fun x k => x.inKnots unit = .ok k) scalars knots ↔
      doubles.map (· * factor) = knots := by
  induction h generalizing knots with
  | nil => rw [List.forall₂_nil_left_iff, List.map_nil, eq_comm]
  | cons hfirst _ ih =>
    rw [List.forall₂_cons_left_iff, List.map_cons]
    simp only [inKnots_iff_of_toBinary64 hunit hfirst.1, ih]
    constructor
    · rintro ⟨k, rest, rfl, rfl, rfl⟩
      rfl
    · rintro rfl
      exact ⟨_, _, rfl, rfl, rfl⟩

/-- Converting an array is converting each of the values it stores. An array of any length, an
empty one too, is refused with an error exactly if a single number is refused for that unit; it is
converted exactly if the unit is known, and the speeds are then, in order and one for each value,
what the values are converted to on their own. Either way a value is first made the double precision
number that stands for it, which for a whole number is the nearest one. -/
theorem inKnots_elementwise [UnitLibrary] (readings : Readings) (unit : Option String) :
    (∀ e (x : Scalar), readings.inKnots unit = .error e ↔ x.inKnots unit = .error (.unit e)) ∧
      (∀ knots, readings.inKnots unit = .ok knots ↔
        (∃ factor, knotsFactor unit = .ok factor) ∧
          List.Forall₂ (fun x k => x.inKnots unit = .ok k) readings.scalars knots) ∧
      List.Forall₂ (fun x y => x.toBinary64 = .ok y ∧ x.RoundsTo y) readings.scalars
        readings.toBinary64s := by
  refine ⟨fun e x => ?_, fun knots => ?_, readings.toBinary64s_roundsTo⟩
  · cases hunit : knotsFactor unit with
    | error fault =>
      rw [inKnots_of_error hunit, x.inKnots_eq, hunit]
      simp
    | ok factor =>
      rw [inKnots_of_ok hunit, x.inKnots_eq, hunit]
      refine iff_of_false nofun fun h => ?_
      cases hx : x.toBinary64 <;> rw [hx] at h <;> cases h
  · cases hunit : knotsFactor unit with
    | error fault =>
      rw [inKnots_of_error hunit]
      exact iff_of_false nofun fun h => by cases h.1.choose_spec
    | ok factor =>
      rw [inKnots_of_ok hunit, Except.ok.injEq,
        forall₂_inKnots_iff hunit readings.toBinary64s_roundsTo]
      exact ⟨fun h => ⟨⟨factor, rfl⟩, h⟩, fun h => h.2⟩

end Readings
end WindSymbols
