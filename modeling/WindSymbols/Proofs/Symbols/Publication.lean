import WindSymbols.Proofs.Symbols.Building
import WindSymbols.Proofs.Symbols.Session

/-! Publishing a profile in whole units. A registration is meant to end with the set, all of it
finite, or with the refusal of a blank or a taken name (`Registry.Publishes`). Which profiles make
it end so is told by their numbers alone (`publishes_iff`), and a profile that is accepted need not
be one of them. -/

namespace WindSymbols

open Binary64 Text

theorem SymbolSet.build_eq_error {name : String} {p : Profile} {e : GlyphError}
    (h : GlyphTable.build p = .error e) : SymbolSet.build name p = .error e := by
  unfold SymbolSet.build
  split
  · rename_i hok
    cases h.symm.trans hok
  · rename_i herror
    cases h.symm.trans herror
    rfl

namespace Registry

def IsTaken (r : Registry) (name : String) (replace : Bool) : Prop :=
  nameKey name ∈ r.map SymbolSet.name ∧ (replace = false ∨ nameKey name = standardName)

theorem isTaken_iff {r : Registry} {name : String} {replace : Bool} :
    r.IsTaken name replace ↔
      (r.any (·.name = nameKey name) && (!replace || nameKey name = standardName)) = true := by
  rw [IsTaken, Bool.and_eq_true, any_name_iff, Bool.or_eq_true, Bool.not_eq_true',
    decide_eq_true_iff]

section Outcomes

variable (r : Registry) {name : String} {p : Profile} (replace : Bool)

theorem register_of_blank (h : nameKey name = "") :
    r.register name p replace = .error .blankName := by
  rw [register]
  dsimp only
  rw [if_pos h]
  rfl

variable (hname : nameKey name ≠ "")

include hname

theorem register_of_build_error {e : GlyphError} (h : GlyphTable.build p = .error e) :
    r.register name p replace = .error (.unbuildable e) := by
  rw [register]
  dsimp only
  rw [if_neg hname, SymbolSet.build_eq_error h]
  rfl

variable {r replace}

theorem register_of_isTaken {s : SymbolSet} (hs : SymbolSet.build (nameKey name) p = .ok s)
    (h : r.IsTaken name replace) : r.register name p replace = .error (.taken (nameKey name)) := by
  rw [register]
  dsimp only
  rw [if_neg hname, hs]
  exact if_pos (isTaken_iff.mp h)

theorem register_of_not_isTaken {s : SymbolSet} (hs : SymbolSet.build (nameKey name) p = .ok s)
    (h : ¬ r.IsTaken name replace) : r.register name p replace = .ok (s, r.publish s) := by
  rw [register]
  dsimp only
  rw [if_neg hname, hs]
  exact if_neg (mt isTaken_iff.mpr h)

end Outcomes

/-- A registration that ends in one of the ways it is meant to: with the set, no coordinate of whose
glyphs is infinite, or with the refusal of a blank name or of one that is taken. -/
def Publishes (r : Registry) (name : String) (p : Profile) (replace : Bool) : Prop :=
  match r.register name p replace with
  | .ok (s, _) => s.name = nameKey name ∧ s.profile = p ∧ ∀ entry ∈ s.table, entry.2.IsFinite
  | .error .blankName => nameKey name = ""
  | .error (.taken key) => key = nameKey name ∧ r.IsTaken name replace
  | .error (.unbuildable _) => False

section Accepted

variable {d : WholeProfile} {p : Profile} (h : Profile.ofDimensions d.dimensions = .ok p)
  (r : Registry) (name : String) (replace : Bool)

include h

theorem register_cases :
    (nameKey name = "" ∧ r.register name p replace = .error .blankName) ∨
    (nameKey name ≠ "" ∧ ¬ d.Buildable ∧
      r.register name p replace = .error (.unbuildable (.outOfRange .tooLarge))) ∨
    (nameKey name ≠ "" ∧ d.Buildable ∧ r.IsTaken name replace ∧
      r.register name p replace = .error (.taken (nameKey name))) ∨
    (nameKey name ≠ "" ∧ d.Buildable ∧ ¬ r.IsTaken name replace ∧
      ∃ s, r.register name p replace = .ok (s, r.publish s) ∧ s.name = nameKey name ∧
        s.profile = p ∧ s.table = d.drawnTable p) := by
  have hbuild := WholeProfile.build_yields h
  by_cases hname : nameKey name = ""
  · exact .inl ⟨hname, register_of_blank r replace hname⟩
  by_cases hd : d.Buildable
  · obtain ⟨s, hs⟩ := (SymbolSet.exists_build_iff (nameKey name) p).mpr ⟨_, hbuild.ok hd⟩
    by_cases htaken : r.IsTaken name replace
    · exact .inr (.inr (.inl ⟨hname, hd, htaken, register_of_isTaken hname hs htaken⟩))
    · obtain ⟨hkey, hprofile⟩ := SymbolSet.build_eq_ok hs
      have htable := s.table_eq
      rw [hprofile, hbuild.eq_ok_iff] at htable
      exact .inr (.inr (.inr ⟨hname, hd, htaken, s, register_of_not_isTaken hname hs htaken, hkey,
        hprofile, htable.2⟩))
  · exact .inr (.inl ⟨hname, hd, register_of_build_error r replace hname (hbuild.error hd)⟩)

/-- Which profiles of whole units can be published. A registration ends as it is meant to if and
only if the name is blank, or the builder gets through all glyphs of the profile and either the name
is taken or no outermost end is out of range. If it fails, it fails for a blank name, or because a
length or a position has no double precision number, which is found out before the name is looked
for, or for a name that is taken. Lengths of up to 2^970 are always published as they should be. -/
theorem publishes_iff :
    (r.Publishes name p replace ↔
        nameKey name = "" ∨ d.Buildable ∧ (r.IsTaken name replace ∨ d.Bounded)) ∧
      (∀ e, r.register name p replace = .error e ↔
        e = .blankName ∧ nameKey name = "" ∨
          e = .unbuildable (.outOfRange .tooLarge) ∧ nameKey name ≠ "" ∧ ¬ d.Buildable ∨
          e = .taken (nameKey name) ∧ nameKey name ≠ "" ∧ d.Buildable ∧
            r.IsTaken name replace) ∧
      (d.IsModerate → r.Publishes name p replace) := by
  have hiff : r.Publishes name p replace ↔
      nameKey name = "" ∨ d.Buildable ∧ (r.IsTaken name replace ∨ d.Bounded) := by
    rcases register_cases h r name replace with ⟨hname, hresult⟩ | ⟨hname, hd, hresult⟩ |
      ⟨hname, hd, htaken, hresult⟩ | ⟨hname, hd, htaken, s, hresult, hkey, hprofile, htable⟩
    · simp [Publishes, hresult, hname]
    · simp [Publishes, hresult, hname, hd]
    · simp [Publishes, hresult, hname, hd, htaken]
    · have hfinite := WholeProfile.isFinite_drawnTable_iff h hd
      rw [← htable] at hfinite
      simpa [Publishes, hresult, hname, hd, htaken, hkey, hprofile] using hfinite
  refine ⟨hiff, fun e => ?_, fun hd => hiff.mpr (.inr
    ⟨WholeProfile.buildable_of_isModerate h hd, .inr (WholeProfile.bounded_of_isModerate h hd)⟩)⟩
  rcases register_cases h r name replace with ⟨hname, hresult⟩ | ⟨hname, hd, hresult⟩ |
    ⟨hname, hd, htaken, hresult⟩ | ⟨hname, hd, htaken, s, hresult, -⟩
  · simp [hresult, hname, eq_comm]
  · simp [hresult, hname, hd, eq_comm]
  · simp [hresult, hname, hd, htaken, eq_comm]
  · simp [hresult, hname, hd, htaken]

end Accepted

theorem publishes_standard :
    ∃ p, Profile.ofDimensions WholeProfile.standard.dimensions = .ok p ∧
      initial.Publishes "mine" p false := by
  obtain ⟨p, hp⟩ : ∃ p, Profile.ofDimensions WholeProfile.standard.dimensions = .ok p :=
    ⟨_, WholeProfile.ofDimensions_standard⟩
  exact ⟨p, hp, (publishes_iff hp initial "mine" false).2.2 WholeProfile.isModerate_standard⟩

def tall : WholeProfile := { WholeProfile.standard with shaft := 10 ^ 400 }

/-- A shaft and a calm circle that are such numbers, but not the ends of the cross made of them. -/
def wide : WholeProfile :=
  { WholeProfile.standard with shaft := 3 * 2 ^ 1022, calmCircle := 3 * 2 ^ 1022, largest := 0 }

theorem exists_tall : ∃ p, Profile.ofDimensions tall.dimensions = .ok p := by
  refine WholeProfile.exists_accepted (fun part => ?_) rfl Profile.half_twenty
  cases part
  case shaft => exact pow_pos (by decide) 400
  all_goals decide

theorem tall_not_buildable : ¬ tall.Buildable := by
  intro h
  have hpow : (2 : ℚ) ^ 1024 ≤ 10 ^ 400 :=
    calc
      (2 : ℚ) ^ 1024 ≤ 2 ^ (3 * 400) := pow_le_pow_right₀ one_le_two (by omega)
      _ = (2 ^ 3) ^ 400 := pow_mul ..
      _ ≤ 10 ^ 400 := pow_le_pow_left₀ (by norm_num) (by norm_num) 400
  have hlt : |((10 ^ 400 : ℤ) : ℚ)| < overflowFrom := h.shaft
  rw [Int.cast_pow, Int.cast_ofNat, abs_of_pos (by positivity), overflowFrom] at hlt
  exact absurd hlt (not_lt.mpr ((sub_le_self _ (by positivity)).trans hpow))

theorem wide_length_pos : (0 : ℤ) < 3 * 2 ^ 1022 := by positivity

theorem exists_wide : ∃ p, Profile.ofDimensions wide.dimensions = .ok p := by
  refine WholeProfile.exists_accepted (fun part => ?_) rfl Profile.half_twenty
  cases part
  case shaft | calmCircle => exact wide_length_pos
  all_goals decide

theorem inRange_wide_length : InRange (3 * 2 ^ 1022 : ℤ) := by
  have hunit : (0 : ℚ) < 2 ^ 970 := by positivity
  have hlength : (2 : ℚ) ^ 1022 = 2 ^ 52 * 2 ^ 970 := by rw [← pow_add]
  have hlimit : (2 : ℚ) ^ 1024 = 2 ^ 54 * 2 ^ 970 := by rw [← pow_add]
  rw [InRange, abs_of_pos (Int.cast_pos.mpr wide_length_pos), overflowFrom, hlimit, Int.cast_mul,
    Int.cast_pow, Int.cast_ofNat, Int.cast_ofNat, hlength]
  -- powers of this size are not evaluated
  generalize (2 : ℚ) ^ 970 = unit at hunit
  linarith

theorem wide_buildable : wide.Buildable where
  shaft := inRange_wide_length
  calmCircle := inRange_wide_length
  family n hn := by
    have hle : (n : ℤ) ≤ 0 := hn.le_largest
    have hpos := hn.pos
    omega

theorem wide_not_bounded : ¬ wide.Bounded := by
  intro h
  have hhalf := exactly_ofInt_div_two (n := wide.calmCircle) wide_length_pos inRange_wide_length
  have htip := (isFinite_ofInt_iff _).mpr wide_buildable.shaft
  have hcross := h.cross
  rw [← hhalf.toRat_eq] at hcross
  have hfinite := (isFinite_add_iff htip hhalf.isFinite).mpr hcross
  revert hfinite
  decide +kernel

theorem isTaken_initial_iff {name : String} {replace : Bool} :
    initial.IsTaken name replace ↔ nameKey name = standardName := by
  obtain ⟨t, hinitial, hname, -⟩ := exists_initial
  rw [IsTaken, hinitial, List.map_singleton, List.mem_singleton, hname]
  exact ⟨fun h => h.1, fun h => ⟨h, .inr h⟩⟩

theorem register_tall {p : Profile} (h : Profile.ofDimensions tall.dimensions = .ok p) :
    initial.register standardName p false = .error (.unbuildable (.outOfRange .tooLarge)) := by
  have hname : nameKey standardName ≠ "" := by
    rw [nameKey_standardName]
    decide
  rcases register_cases h initial standardName false with ⟨hblank, -⟩ | ⟨-, -, hresult⟩ |
    ⟨-, hd, -⟩ | ⟨-, hd, -⟩
  · exact absurd hblank hname
  · exact hresult
  · exact absurd hd tall_not_buildable
  · exact absurd hd tall_not_buildable

theorem register_wide {p : Profile} (h : Profile.ofDimensions wide.dimensions = .ok p) :
    ∃ s after, initial.register "wide" p false = .ok (s, after) ∧
      ¬ ∀ entry ∈ s.table, entry.2.IsFinite := by
  have hkey : nameKey "wide" = "wide" := by decide
  have hfree : ¬ initial.IsTaken "wide" false := by
    rw [isTaken_initial_iff, hkey]
    decide
  rcases register_cases h initial "wide" false with ⟨hblank, -⟩ | ⟨-, hd, -⟩ | ⟨-, -, htaken, -⟩ |
    ⟨-, -, -, s, hresult, -, -, htable⟩
  · exact absurd (hkey.symm.trans hblank) (by decide)
  · exact absurd wide_buildable hd
  · exact absurd htaken hfree
  · refine ⟨s, _, hresult, ?_⟩
    rw [htable, WholeProfile.isFinite_drawnTable_iff h wide_buildable]
    exact wide_not_bounded

/-- Profiles that are accepted are not always published: under a name that is taken a shaft that is
too long is refused for being too long, and a cross can be published with infinite ends. -/
theorem not_publishes_tall_or_wide :
    (∃ p, Profile.ofDimensions tall.dimensions = .ok p ∧
      initial.IsTaken standardName false ∧
      initial.register standardName p false = .error (.unbuildable (.outOfRange .tooLarge)) ∧
      ¬ initial.Publishes standardName p false) ∧
    ∃ p s after, Profile.ofDimensions wide.dimensions = .ok p ∧
      initial.register "wide" p false = .ok (s, after) ∧ ¬ initial.Publishes "wide" p false := by
  obtain ⟨p, hp⟩ := exists_tall
  obtain ⟨q, hq⟩ := exists_wide
  obtain ⟨s, after, hwide, hinfinite⟩ := register_wide hq
  have htaken : initial.IsTaken standardName false := isTaken_initial_iff.mpr nameKey_standardName
  have htall := register_tall hp
  constructor
  · refine ⟨p, hp, htaken, htall, fun h => ?_⟩
    rw [Publishes, htall] at h
    exact h
  · refine ⟨q, s, after, hq, hwide, fun h => ?_⟩
    rw [Publishes, hwide] at h
    exact hinfinite h.2.2

end Registry
end WindSymbols
