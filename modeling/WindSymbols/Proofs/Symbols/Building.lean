import WindSymbols.Proofs.Glyph.Alike
import WindSymbols.Proofs.Glyph.Moderate
import WindSymbols.Proofs.Symbols.Table

/-! Whether the glyphs of a profile can be built, for lengths in whole units of any size. The
builder gets through all of them if and only if the numbers it goes through are in range
(`WholeProfile.build_yields`), and has then drawn finite glyphs if and only if their outermost ends
are in range too (`isFinite_drawnTable_iff`). Both hold for lengths of up to 2^970
(`buildable_of_isModerate`, `bounded_of_isModerate`), and so for the standard profile
(`SymbolSet.isFinite_of_standard`). -/

namespace WindSymbols

open Binary64

namespace Profile

theorem ofDimensions_dimensions (p : Profile) : ofDimensions p.dimensions = .ok p := by
  have hfault : firstFault? p.dimensions = none := by
    rw [firstFault?, List.find?_eq_none]
    intro part _
    simp [p.positive part]
  obtain ⟨d, largest, shortBarb, hpositive, hlargest, hshort⟩ := p
  unfold ofDimensions
  dsimp only at *
  split
  · rename_i hsome
    cases hfault.symm.trans hsome
  · split
    · rename_i hnone
      cases hlargest.symm.trans hnone
    · rename_i hsome
      cases hlargest.symm.trans hsome
      split
      · rename_i herror
        cases hshort.symm.trans herror
      · rename_i hok
        cases hshort.symm.trans hok
        rfl

theorem ofDimensions_eq_ok_iff {d : Dimensions} {p : Profile} :
    ofDimensions d = .ok p ↔ p.dimensions = d := by
  constructor
  · intro h
    unfold ofDimensions at h
    split at h
    · cases h
    · split at h
      · cases h
      · split at h
        · cases h
        · cases h
          rfl
  · rintro rfl
    exact p.ofDimensions_dimensions

end Profile

structure WholeProfile extends WholeLengths where
  calmCircle : ℤ
  largest : ℤ

namespace WholeProfile

variable (d : WholeProfile)

def dimensions : Dimensions where
  shaft := .whole d.shaft
  pennantBase := .whole d.pennantBase
  spacing := .whole d.spacing
  longBarb := .whole d.longBarb
  calmCircle := .whole d.calmCircle
  largest := .whole d.largest

def length : Part → ℤ
  | .shaft => d.shaft
  | .pennantBase => d.pennantBase
  | .spacing => d.spacing
  | .longBarb => d.longBarb
  | .calmCircle => d.calmCircle

def standard : WholeProfile := { WholeLengths.standard with calmCircle := 10, largest := 100 }

structure IsModerate : Prop where
  length_le : ∀ part, d.length part ≤ 2 ^ 970
  largest_le : d.largest ≤ 2 ^ 50

/-- A family that is drawn, and not as calm. -/
structure Draws (n : ℕ) : Prop where
  pos : 0 < n
  le_largest : n ≤ d.largest
  mod_eq : n % 5 = 0

/-- The builder gets through all glyphs of the profile. -/
structure Buildable : Prop where
  shaft : InRange d.shaft
  calmCircle : InRange d.calmCircle
  family : ∀ n, d.Draws n → d.Reaches (n / 50) (n % 50 / 10) (n % 10 / 5)

/-- The outermost ends of all glyphs of the profile are in range. -/
structure Bounded : Prop where
  cross : InRange (rounded d.shaft + rounded d.calmCircle / 2)
  family : ∀ n, d.Draws n → d.EndsFit (n / 50) (n % 50 / 10) (n % 10 / 5)

def drawnFamily (short : Binary64) (n : ℕ) : Glyph :=
  if n = 0 then [Glyph.circle (ofInt d.calmCircle / 2)]
  else d.drawing short (n / 50) (n % 50 / 10) (n % 10 / 5)

def FamilyFits (n : ℕ) : Prop :=
  if n = 0 then InRange d.calmCircle else d.Reaches (n / 50) (n % 50 / 10) (n % 10 / 5)

def drawnTable (p : Profile) : GlyphTable :=
  (p.families.map fun n : ℕ => (.ofFamily n, d.drawnFamily p.shortBarb n)) ++
    [(.calm, [Glyph.circle (ofInt d.calmCircle / 2)]),
      (.noData, Glyph.drawnCross d.shaft d.calmCircle)]

variable {d}

theorem length_dimensions (part : Part) : d.dimensions.length part = .whole (d.length part) := by
  cases part <;> rfl

theorem isPositive_length_iff {part : Part} :
    (d.dimensions.length part).isPositive = true ↔ 0 < d.length part := by
  rw [length_dimensions, Scalar.isPositive, whole_lt_whole, decide_eq_true_iff]

theorem exists_accepted {largest : ℕ} {shortBarb : Binary64} (hpos : ∀ part, 0 < d.length part)
    (hlargest : d.dimensions.largest? = some largest)
    (hshort : (Scalar.whole d.longBarb).half = .ok shortBarb) :
    ∃ p, Profile.ofDimensions d.dimensions = .ok p :=
  ⟨_, Profile.ofDimensions_dimensions ⟨d.dimensions, largest, shortBarb,
    fun part => isPositive_length_iff.mpr (hpos part), hlargest, hshort⟩⟩

section Accepted

variable {p : Profile} (h : Profile.ofDimensions d.dimensions = .ok p)

include h

theorem of_accepted : d.toWholeLengths.Of p := by
  have hp := Profile.ofDimensions_eq_ok_iff.mp h
  constructor <;> rw [hp] <;> rfl

theorem calmCircle_eq_of_accepted : p.dimensions.calmCircle = .whole d.calmCircle := by
  rw [Profile.ofDimensions_eq_ok_iff.mp h]
  rfl

theorem length_pos_of_accepted (part : Part) : 0 < d.length part := by
  have hpos := p.positive part
  rw [Profile.ofDimensions_eq_ok_iff.mp h] at hpos
  exact isPositive_length_iff.mp hpos

theorem largest_eq_of_accepted : d.largest = p.largest := by
  have hlargest := p.largest_eq
  rw [Profile.ofDimensions_eq_ok_iff.mp h, Dimensions.largest?, dimensions] at hlargest
  dsimp only at hlargest
  cases hd : d.largest with
  | ofNat n =>
    rw [hd] at hlargest
    dsimp only at hlargest
    split at hlargest
    · rw [← Option.some.inj hlargest]
      rfl
    · cases hlargest
  | negSucc n =>
    rw [hd] at hlargest
    cases hlargest

theorem mem_families_iff {n : ℕ} : n ∈ p.families ↔ n = 0 ∨ d.Draws n := by
  have hlargest := largest_eq_of_accepted h
  rw [GlyphTable.mem_families]
  constructor
  · rintro ⟨i, hi, rfl⟩
    rcases Nat.eq_zero_or_pos i with rfl | hpos
    · exact .inl rfl
    · exact .inr ⟨by omega, by omega, by omega⟩
  · rintro (rfl | hn)
    · exact ⟨0, Nat.zero_le _, rfl⟩
    · have := hn.le_largest
      have := hn.mod_eq
      exact ⟨n / 5, by omega, by omega⟩

theorem fits_iff_buildable :
    ((∀ n ∈ p.families, d.FamilyFits n) ∧ InRange d.calmCircle ∧ InRange d.shaft ∧
      InRange d.calmCircle) ↔ d.Buildable := by
  constructor
  · rintro ⟨hfamilies, hcircle, hshaft, -⟩
    refine ⟨hshaft, hcircle, fun n hn => ?_⟩
    have hfits := hfamilies n ((mem_families_iff h).mpr (.inr hn))
    rwa [FamilyFits, if_neg hn.pos.ne'] at hfits
  · intro hd
    refine ⟨fun n hn => ?_, hd.calmCircle, hd.shaft, hd.calmCircle⟩
    rw [FamilyFits]
    split
    · exact hd.calmCircle
    · exact hd.family n (((mem_families_iff h).mp hn).resolve_left ‹_›)

theorem familyEntry_yields {n : ℕ} (hn : n ∈ p.families) :
    Yields (.outOfRange .tooLarge) (GlyphTable.familyEntry p n) (d.FamilyFits n)
      (.ofFamily n, d.drawnFamily p.shortBarb n) := by
  have hmod : n % 5 = 0 := by
    obtain ⟨i, -, rfl⟩ := GlyphTable.mem_families.mp hn
    exact Nat.mul_mod_right 5 i
  have hglyph : Yields (.outOfRange .tooLarge) (Glyph.ofFamily n p) (d.FamilyFits n)
      (d.drawnFamily p.shortBarb n) := by
    rw [Glyph.ofFamily, Glyph.ofFamily?_natCast hmod, FamilyFits, drawnFamily]
    dsimp only
    rw [Glyph.ofParts]
    by_cases hzero : n = 0
    · rw [if_pos hzero, if_pos hzero]
      subst hzero
      exact (Glyph.calm_yields (calmCircle_eq_of_accepted h)).mapError _
    · rw [if_neg hzero, if_neg hzero, Glyph.isEmpty_eq_false hmod hzero,
        if_neg Bool.false_ne_true]
      exact (Glyph.ofElements_yields (of_accepted h) (by omega)).mapError _
  exact hglyph.map rfl

theorem build_yields :
    Yields (.outOfRange .tooLarge) (GlyphTable.build p) d.Buildable (d.drawnTable p) := by
  have hcheck : p.checkLargest.mapError GlyphError.outOfRange = .ok () := by
    rw [Profile.checkLargest, Profile.ofDimensions_eq_ok_iff.mp h]
    rfl
  have hcalm := (Glyph.calm_yields (calmCircle_eq_of_accepted h)).mapError GlyphError.outOfRange
  have hnoData := (Glyph.noData_yields (calmCircle_eq_of_accepted h)
    (of_accepted h).shaft_eq).mapError GlyphError.outOfRange
  have hfamilies : Yields (.outOfRange .tooLarge) (p.families.mapM (GlyphTable.familyEntry p))
      (∀ n ∈ p.families, d.FamilyFits n)
      (p.families.map fun n : ℕ => (.ofFamily n, d.drawnFamily p.shortBarb n)) :=
    Yields.mapM fun n hn => familyEntry_yields h hn
  refine Yields.congr ?_ (fits_iff_buildable h)
  rw [GlyphTable.build, hcheck, ok_bind]
  exact hfamilies.bind fun _ => hcalm.bind fun _ => hnoData.map rfl

/-- A table that is built has infinite coordinates only where an outermost end is out of range. -/
theorem isFinite_drawnTable_iff (hd : d.Buildable) :
    (∀ entry ∈ d.drawnTable p, entry.2.IsFinite) ↔ d.Bounded := by
  have hof := of_accepted h
  have hcircle : Glyph.IsFinite [Glyph.circle (ofInt d.calmCircle / 2)] :=
    List.forall_mem_singleton.mpr (Glyph.isFinite_circle
      (exactly_ofInt_div_two (length_pos_of_accepted h .calmCircle) hd.calmCircle).isFinite)
  have hcross := Glyph.isFinite_drawnCross_iff hd.shaft hd.calmCircle hof.pos.1
    (length_pos_of_accepted h .calmCircle)
  have hshort : p.shortBarb.isFinite = true := by
    have hhalf := p.shortBarb_eq
    rw [hof.longBarb_eq] at hhalf
    exact (orTooLarge_eq_ok hhalf).2
  have hfamily {n : ℕ} (hn : d.Draws n) :
      (d.drawnFamily p.shortBarb n).IsFinite ↔ d.EndsFit (n / 50) (n % 50 / 10) (n % 10 / 5) := by
    rw [drawnFamily, if_neg hn.pos.ne']
    exact Glyph.isFinite_drawing_iff hof.pos.2 (hd.family n hn) hshort
  rw [drawnTable, List.forall_mem_append, List.forall_mem_map, List.forall_mem_cons,
    List.forall_mem_singleton]
  constructor
  · rintro ⟨hfamilies, -, hnoData⟩
    refine ⟨hcross.mp hnoData, fun n hn => (hfamily hn).mp ?_⟩
    exact hfamilies n ((mem_families_iff h).mpr (.inr hn))
  · intro hends
    refine ⟨fun n hn => ?_, hcircle, hcross.mpr hends.cross⟩
    rcases (mem_families_iff h).mp hn with rfl | hn
    · exact hcircle
    · exact (hfamily hn).mpr (hends.family n hn)

/-! Profiles that are far from the largest number. -/

variable (hd : d.IsModerate)

include hd

theorem within_length (part : Part) : Within 1 (d.length part) := by
  have hpos : (0 : ℚ) ≤ d.length part := Int.cast_nonneg (length_pos_of_accepted h part).le
  have hle : (d.length part : ℚ) ≤ (2 ^ 970 : ℤ) := Int.cast_le.mpr (hd.length_le part)
  rw [Int.cast_pow, Int.cast_ofNat] at hle
  rwa [Within, abs_of_nonneg hpos, Nat.cast_one, one_mul]

theorem moderate_of_accepted : d.toWholeLengths.Moderate where
  pennantBase_pos := length_pos_of_accepted h .pennantBase
  shaft := within_length h hd .shaft
  pennantBase := within_length h hd .pennantBase
  spacing := within_length h hd .spacing
  longBarb := within_length h hd .longBarb

theorem buildable_of_isModerate : d.Buildable where
  shaft := (within_length h hd .shaft).inRange (by omega)
  calmCircle := (within_length h hd .calmCircle).inRange (by omega)
  family n hn := by
    have hlargest := hn.le_largest.trans hd.largest_le
    exact WholeLengths.reaches_of_moderate (moderate_of_accepted h hd) (by omega) _

theorem bounded_of_isModerate : d.Bounded where
  cross := by
    have hshaft := within_rounded (within_length h hd .shaft) (by omega)
    have hcircle := within_rounded (within_length h hd .calmCircle) (by omega)
    exact (hshaft.add (hcircle.div one_le_two)).inRange (by omega)
  family n hn := by
    have hlargest := hn.le_largest.trans hd.largest_le
    exact WholeLengths.endsFit_of_moderate (moderate_of_accepted h hd) (by omega) _

end Accepted

/-! The standard profile. -/

theorem ofDimensions_standard : Profile.ofDimensions standard.dimensions = .ok .standard :=
  Profile.ofDimensions_dimensions .standard

theorem isModerate_standard : standard.IsModerate where
  length_le part := by
    have hlength : standard.length part ≤ 2 ^ 6 := by cases part <;> decide
    exact hlength.trans (pow_le_pow_right₀ one_le_two (by omega))
  largest_le := by decide

end WholeProfile

theorem SymbolSet.isFinite_of_standard {s : SymbolSet} (h : s.profile = .standard) :
    ∀ entry ∈ s.table, entry.2.IsFinite := by
  have hprofile := WholeProfile.ofDimensions_standard
  have hmoderate := WholeProfile.isModerate_standard
  have htable := s.table_eq
  rw [h, (WholeProfile.build_yields hprofile).eq_ok_iff] at htable
  obtain ⟨hbuildable, htable⟩ := htable
  rw [htable, WholeProfile.isFinite_drawnTable_iff hprofile hbuildable]
  exact WholeProfile.bounded_of_isModerate hprofile hmoderate

end WindSymbols
