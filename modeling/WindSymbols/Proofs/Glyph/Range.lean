import WindSymbols.Proofs.Glyph.Layout
import WindSymbols.Proofs.Number.Overflow

/-! How far a glyph reaches. With whole lengths of any size the builder rounds each position before
it goes down from it, and the walk is one over whole numbers again (`WholeLengths.roundedCorner`).
The builder fails where a position of the walk, or of a barb, is beyond double precision, and
nowhere else (`ofElements_yields`); the glyph it builds has infinite coordinates where the outer end
of a barb is (`isFinite_drawing_iff`). -/

namespace WindSymbols

open Binary64

namespace WholeLengths

variable (d : WholeLengths)

/-- Half a base below a position, as double precision has it, without the fraction. -/
def lowered (y : ℤ) : ℤ := truncated (ofInt y - ofInt d.pennantBase / 2)

def roundedCorner : ℕ → ℤ
  | 0 => d.shaft
  | k + 1 => d.lowered (roundedCorner k)

def roundedFirst (pennants : ℕ) : ℤ :=
  if pennants = 0 then d.shaft else d.roundedCorner (2 * pennants) - d.spacing

def roundedLong (pennants i : ℕ) : ℤ := d.roundedFirst pennants - i * d.spacing

def roundedShort (pennants longBarbs : ℕ) : ℤ :=
  if pennants = 0 ∧ longBarbs = 0 then d.shaft - d.spacing else d.roundedLong pennants longBarbs

def StepFits (y : ℤ) : Prop := InRange (rounded y - rounded d.pennantBase / 2)

/-- Lengths and positions that there are numbers for. -/
structure Reaches (pennants longBarbs shortBarbs : ℕ) : Prop where
  pennantBase : InRange d.pennantBase
  longBarb : InRange d.longBarb
  shaft : InRange d.shaft
  step : ∀ k < 2 * pennants, d.StepFits (d.roundedCorner k)
  longAnchor : ∀ i < longBarbs, InRange (d.roundedLong pennants i)
  shortAnchor : shortBarbs ≠ 0 → InRange (d.roundedShort pennants longBarbs)

structure EndsFit (pennants longBarbs shortBarbs : ℕ) : Prop where
  longBarb : ∀ i < longBarbs,
    InRange (rounded (d.roundedLong pennants i) + rounded d.pennantBase / 2)
  shortBarb : shortBarbs ≠ 0 →
    InRange (rounded (d.roundedShort pennants longBarbs) + rounded d.pennantBase / 4)

/-! What is drawn. -/

def drawnPennant (i : ℕ) : Path :=
  [⟨0, ofInt (d.roundedCorner (2 * i))⟩,
    ⟨ofInt d.longBarb, ofInt (d.roundedCorner (2 * i + 1))⟩,
    ⟨0, ofInt (d.roundedCorner (2 * i + 2))⟩, ⟨0, ofInt (d.roundedCorner (2 * i))⟩]

def drawnBarb (reach rise : Binary64) (y : ℤ) : Path := [⟨0, ofInt y⟩, ⟨reach, ofInt y + rise⟩]

def drawnLong (pennants i : ℕ) : Path :=
  drawnBarb (ofInt d.longBarb) (ofInt d.pennantBase / 2) (d.roundedLong pennants i)

def drawnShort (short : Binary64) (pennants longBarbs : ℕ) : Path :=
  drawnBarb short (ofInt d.pennantBase / 4) (d.roundedShort pennants longBarbs)

def drawing (short : Binary64) (pennants longBarbs shortBarbs : ℕ) : Glyph :=
  [⟨0, 0⟩, ⟨0, ofInt d.shaft⟩] :: (List.range pennants).map d.drawnPennant ++
    (List.range longBarbs).map (d.drawnLong pennants) ++
    List.replicate shortBarbs (d.drawnShort short pennants longBarbs)

theorem mem_drawing {short : Binary64} {pennants longBarbs shortBarbs : ℕ} {path : Path} :
    path ∈ d.drawing short pennants longBarbs shortBarbs ↔
      path = [⟨0, 0⟩, ⟨0, ofInt d.shaft⟩] ∨ (∃ i < pennants, d.drawnPennant i = path) ∨
        (∃ i < longBarbs, d.drawnLong pennants i = path) ∨
        (shortBarbs ≠ 0 ∧ path = d.drawnShort short pennants longBarbs) := by
  simp only [drawing, List.cons_append, List.mem_cons, List.mem_append, List.mem_map,
    List.mem_range, List.mem_replicate, or_assoc]

theorem roundedLong_zero (pennants : ℕ) : d.roundedLong pennants 0 = d.roundedFirst pennants := by
  rw [roundedLong, Nat.cast_zero, zero_mul, sub_zero]

theorem roundedLong_succ (pennants i : ℕ) :
    d.roundedLong pennants (i + 1) = d.roundedLong pennants i - d.spacing := by
  rw [roundedLong, roundedLong]
  push_cast
  ring

variable {d} in
theorem inRange_roundedCorner (hshaft : InRange d.shaft) (k : ℕ) : InRange (d.roundedCorner k) := by
  cases k with
  | zero => exact hshaft
  | succ k =>
    rw [roundedCorner, lowered]
    exact inRange_truncated _

end WholeLengths

namespace Glyph

theorem toBinary64_yields (n : ℤ) :
    Yields .tooLarge (Scalar.whole n).toBinary64 (InRange n) (ofInt n) where
  ok h := toBinary64_whole_of_inRange h
  error h := by
    rw [Scalar.toBinary64, orTooLarge, if_neg (mt (isFinite_ofInt_iff n).mp h)]

theorem truncate_yields {x : Binary64} (hx : x ≠ nan) :
    Yields .tooLarge x.truncate (x.isFinite = true) (truncated x) :=
  ⟨truncate_of_finite, truncate_of_not_finite hx⟩

theorem barb_yields (reach rise : Binary64) (y : ℤ) :
    Yields .tooLarge (barb reach rise (.whole y)) (InRange y)
      (WholeLengths.drawnBarb reach rise y) :=
  (toBinary64_yields y).map rfl

section Walk

variable {d : WholeLengths} (hpos : 0 < d.pennantBase) (hbase : InRange d.pennantBase)

include hpos hbase

theorem below_yields {y : ℤ} (hy : InRange y) :
    Yields .tooLarge (below (.whole y) (ofInt d.pennantBase / 2)) (d.StepFits y)
      (.whole (d.lowered y)) := by
  have hx := (isFinite_ofInt_iff y).mpr hy
  have hhalf := exactly_ofInt_div_two hpos hbase
  have hstep := isNearest_sub hx hhalf.isFinite
  rw [hhalf.toRat_eq] at hstep
  rw [below, toBinary64_whole_of_inRange hy, ok_bind, WholeLengths.lowered]
  refine Yields.congr ?_ hstep.isFinite_iff
  exact (truncate_yields hstep.ne_nan).map rfl

variable (hshaft : InRange d.shaft)

include hshaft

theorem pennant_yields (i : ℕ) :
    Yields .tooLarge
      (pennant (ofInt d.longBarb) (ofInt d.pennantBase / 2) (.whole (d.roundedCorner (2 * i))))
      (d.StepFits (d.roundedCorner (2 * i)) ∧ d.StepFits (d.roundedCorner (2 * i + 1)))
      (d.drawnPennant i, .whole (d.roundedCorner (2 * (i + 1)))) := by
  have hcorner := WholeLengths.inRange_roundedCorner hshaft
  rw [pennant]
  refine (below_yields hpos hbase (hcorner _)).bind fun _ => ?_
  rw [← WholeLengths.roundedCorner, toBinary64_whole_of_inRange (hcorner _), ok_bind]
  refine (below_yields hpos hbase (hcorner _)).map ?_
  rw [← WholeLengths.roundedCorner, toBinary64_whole_of_inRange (hcorner _), ok_bind,
    toBinary64_whole_of_inRange (hcorner _)]
  rfl

theorem pennants_yields (count i : ℕ) :
    Yields .tooLarge
      (pennants (ofInt d.longBarb) (ofInt d.pennantBase / 2) count
        (.whole (d.roundedCorner (2 * i))))
      (∀ k, 2 * i ≤ k → k < 2 * (i + count) → d.StepFits (d.roundedCorner k))
      ((List.range' i count).map d.drawnPennant, .whole (d.roundedCorner (2 * (i + count)))) := by
  induction count generalizing i with
  | zero => exact (Yields.of_eq_ok rfl).congr (iff_of_true trivial fun k _ _ => by omega)
  | succ count ih =>
    have hnext : i + (count + 1) = i + 1 + count := by omega
    have hrest : Yields .tooLarge
        (pennants (ofInt d.longBarb) (ofInt d.pennantBase / 2) (count + 1)
          (.whole (d.roundedCorner (2 * i))))
        ((d.StepFits (d.roundedCorner (2 * i)) ∧ d.StepFits (d.roundedCorner (2 * i + 1))) ∧
          ∀ k, 2 * (i + 1) ≤ k → k < 2 * (i + 1 + count) → d.StepFits (d.roundedCorner k))
        ((List.range' i (count + 1)).map d.drawnPennant,
          .whole (d.roundedCorner (2 * (i + 1 + count)))) := by
      rw [pennants, List.range'_succ, List.map_cons]
      exact (pennant_yields hpos hbase hshaft i).bind fun _ => (ih (i + 1)).map rfl
    rw [hnext]
    refine hrest.congr ⟨?_, ?_⟩
    · rintro ⟨⟨htip, hapex⟩, hbelow⟩ k hik hk
      obtain rfl | rfl | hk' : k = 2 * i ∨ k = 2 * i + 1 ∨ 2 * (i + 1) ≤ k := by omega
      · exact htip
      · exact hapex
      · exact hbelow k hk' hk
    · intro h
      exact ⟨⟨h _ (by omega) (by omega), h _ (by omega) (by omega)⟩,
        fun k hik hk => h k (by omega) hk⟩

end Walk

section Barbs

variable (d : WholeLengths) (pennants : ℕ)

theorem barbsBelow_yields (count i : ℕ) :
    Yields .tooLarge
      (barbsBelow (ofInt d.longBarb) (ofInt d.pennantBase / 2) (.whole d.spacing) count
        (.whole (d.roundedLong pennants i)))
      (∀ k, i < k → k ≤ i + count → InRange (d.roundedLong pennants k))
      ((List.range' (i + 1) count).map (d.drawnLong pennants),
        .whole (d.roundedLong pennants (i + count))) := by
  induction count generalizing i with
  | zero => exact (Yields.of_eq_ok rfl).congr (iff_of_true trivial fun k _ _ => by omega)
  | succ count ih =>
    have hnext : i + (count + 1) = i + 1 + count := by omega
    have hrest : Yields .tooLarge
        (barbsBelow (ofInt d.longBarb) (ofInt d.pennantBase / 2) (.whole d.spacing) (count + 1)
          (.whole (d.roundedLong pennants i)))
        (InRange (d.roundedLong pennants (i + 1)) ∧
          ∀ k, i + 1 < k → k ≤ i + 1 + count → InRange (d.roundedLong pennants k))
        ((List.range' (i + 1) (count + 1)).map (d.drawnLong pennants),
          .whole (d.roundedLong pennants (i + 1 + count))) := by
      rw [barbsBelow, sub_whole, ok_bind, ← d.roundedLong_succ, List.range'_succ, List.map_cons]
      exact (barb_yields _ _ _).bind fun _ => (ih (i + 1)).map rfl
    rw [hnext]
    refine hrest.congr ⟨?_, ?_⟩
    · rintro ⟨hfirst, hbelow⟩ k hik hk
      obtain rfl | hk' : k = i + 1 ∨ i + 1 < k := by omega
      · exact hfirst
      · exact hbelow k hk' hk
    · intro h
      exact ⟨h _ (by omega) (by omega), fun k hik hk => h k (by omega) hk⟩

theorem barbs_yields (count : ℕ) :
    Yields .tooLarge
      (barbs (ofInt d.longBarb) (ofInt d.pennantBase / 2) (.whole d.spacing) count
        (.whole (d.roundedFirst pennants)))
      (∀ i < count, InRange (d.roundedLong pennants i))
      ((List.range count).map (d.drawnLong pennants),
        .whole (d.roundedLong pennants (count - 1))) := by
  rw [← d.roundedLong_zero]
  cases count with
  | zero => exact (Yields.of_eq_ok rfl).congr (iff_of_true trivial fun i hi => by omega)
  | succ count =>
    have hrest : Yields .tooLarge
        (barbs (ofInt d.longBarb) (ofInt d.pennantBase / 2) (.whole d.spacing) (count + 1)
          (.whole (d.roundedLong pennants 0)))
        (InRange (d.roundedLong pennants 0) ∧
          ∀ k, 0 < k → k ≤ 0 + count → InRange (d.roundedLong pennants k))
        ((List.range (count + 1)).map (d.drawnLong pennants),
          .whole (d.roundedLong pennants (0 + count))) := by
      rw [barbs, List.range_eq_range', List.range'_succ, List.map_cons]
      exact (barb_yields _ _ _).bind fun _ => (barbsBelow_yields d pennants count 0).map rfl
    rw [Nat.zero_add] at hrest
    refine hrest.congr ⟨?_, ?_⟩
    · rintro ⟨hfirst, hbelow⟩ k hk
      obtain rfl | hpos : k = 0 ∨ 0 < k := by omega
      · exact hfirst
      · exact hbelow k hpos (by omega)
    · intro h
      exact ⟨h 0 (by omega), fun k _ hk => h k (by omega)⟩

theorem afterGroup_roundedCorner :
    afterGroup pennants (.whole d.spacing) (.whole (d.roundedCorner (2 * pennants))) =
      .ok (.whole (d.roundedFirst pennants)) := by
  by_cases hnone : pennants = 0
  · subst hnone
    rfl
  · rw [afterGroup, if_neg (Int.natCast_ne_zero.mpr hnone), sub_whole, WholeLengths.roundedFirst,
      if_neg hnone]

theorem afterGroup_roundedLong (longBarbs : ℕ) :
    afterGroup longBarbs (.whole d.spacing) (.whole (d.roundedLong pennants (longBarbs - 1))) =
      .ok (.whole (d.roundedLong pennants longBarbs)) := by
  cases longBarbs with
  | zero => rfl
  | succ longBarbs =>
    rw [afterGroup, if_neg (Int.natCast_ne_zero.mpr longBarbs.succ_ne_zero), sub_whole,
      Nat.add_sub_cancel, ← d.roundedLong_succ]

end Barbs

section Elements

variable {p : Profile} {d : WholeLengths} {pennants longBarbs shortBarbs : ℕ}

theorem shortBarb_yields (h : d.Of p) (hshort : shortBarbs ≤ 1) :
    Yields .tooLarge
      (shortBarb ⟨pennants, longBarbs, shortBarbs⟩ p p.shortBarb (ofInt d.pennantBase / 4)
        (.whole (d.roundedLong pennants longBarbs)))
      (shortBarbs ≠ 0 → InRange (d.roundedShort pennants longBarbs))
      (List.replicate shortBarbs (d.drawnShort p.shortBarb pennants longBarbs)) := by
  obtain rfl | rfl : shortBarbs = 0 ∨ shortBarbs = 1 := by omega
  · exact (Yields.of_eq_ok rfl).congr (iff_of_true trivial fun hne => absurd rfl hne)
  · have hone : ((1 : ℕ) : ℤ) ≠ 0 := one_ne_zero
    have hneeded : InRange (d.roundedShort pennants longBarbs) ↔
        (1 ≠ 0 → InRange (d.roundedShort pennants longBarbs)) :=
      ⟨fun hanchor _ => hanchor, fun hanchor => hanchor one_ne_zero⟩
    refine Yields.congr ?_ hneeded
    rw [shortBarb, if_neg hone]
    dsimp only
    by_cases halone : pennants = 0 ∧ longBarbs = 0
    · obtain ⟨rfl, rfl⟩ := halone
      rw [WholeLengths.drawnShort, WholeLengths.roundedShort, if_pos ⟨rfl, rfl⟩, if_pos ⟨rfl, rfl⟩,
        h.shaft_eq, h.spacing_eq, sub_whole, ok_bind]
      exact (barb_yields _ _ _).map rfl
    · have hsome : ¬ ((pennants : ℤ) = 0 ∧ (longBarbs : ℤ) = 0) := by omega
      rw [WholeLengths.drawnShort, WholeLengths.roundedShort, if_neg halone, if_neg hsome,
        pure_bind]
      exact (barb_yields _ _ _).map rfl

/-- The builder fails where a length or a position is beyond double precision, and only there. -/
theorem ofElements_yields (h : d.Of p) (hshort : shortBarbs ≤ 1) :
    Yields .tooLarge (ofElements ⟨pennants, longBarbs, shortBarbs⟩ p)
      (d.Reaches pennants longBarbs shortBarbs)
      (d.drawing p.shortBarb pennants longBarbs shortBarbs) := by
  have hneeded : (InRange d.pennantBase ∧ InRange d.longBarb ∧ InRange d.shaft ∧
      (∀ k, 2 * 0 ≤ k → k < 2 * (0 + pennants) → d.StepFits (d.roundedCorner k)) ∧
      (∀ i < longBarbs, InRange (d.roundedLong pennants i)) ∧
      (shortBarbs ≠ 0 → InRange (d.roundedShort pennants longBarbs))) ↔
      d.Reaches pennants longBarbs shortBarbs := by
    constructor
    · rintro ⟨hbase, hlong, hshaft, hstep, hlongAnchor, hshortAnchor⟩
      exact ⟨hbase, hlong, hshaft, fun k hk => hstep k (by omega) (by omega), hlongAnchor,
        hshortAnchor⟩
    · intro h
      exact ⟨h.pennantBase, h.longBarb, h.shaft, fun k _ hk => h.step k (by omega), h.longAnchor,
        h.shortAnchor⟩
  refine Yields.congr ?_ hneeded
  rw [ofElements, h.pennantBase_eq, h.longBarb_eq]
  refine (toBinary64_yields _).bind fun hbase => ?_
  refine (toBinary64_yields _).bind fun _ => ?_
  have hstem : Yields .tooLarge (shaft p) (InRange d.shaft) [⟨0, 0⟩, ⟨0, ofInt d.shaft⟩] := by
    rw [shaft, h.shaft_eq]
    exact (toBinary64_yields _).map rfl
  refine hstem.bind fun hshaft => ?_
  dsimp only
  rw [h.shaft_eq, h.spacing_eq, Int.toNat_natCast, Int.toNat_natCast]
  refine (pennants_yields h.pos.2 hbase hshaft pennants 0).bind fun _ => ?_
  dsimp only
  rw [Nat.zero_add, afterGroup_roundedCorner, ok_bind]
  refine (barbs_yields d pennants longBarbs).bind fun _ => ?_
  dsimp only
  rw [afterGroup_roundedLong, ok_bind]
  refine (shortBarb_yields h hshort).map ?_
  rw [WholeLengths.drawing, List.range_eq_range' (n := pennants)]
  rfl

end Elements

/-! Where all of it is finite. -/

theorem isFinite_mk {x y : Binary64} (hx : x.isFinite = true) (hy : y.isFinite = true) :
    PointOf.IsFinite ⟨x, y⟩ :=
  ⟨hx, hy⟩

theorem isFinite_stem {y : Binary64} (hy : y.isFinite = true) : PointOf.IsFinite ⟨0, y⟩ :=
  isFinite_mk exactly_zero.isFinite hy

theorem isFinite_segment_iff {a b : Point} :
    (∀ p ∈ [a, b], PointOf.IsFinite p) ↔ a.IsFinite ∧ b.IsFinite := by
  rw [List.forall_mem_cons, List.forall_mem_singleton]

theorem isFinite_drawnBarb_iff {reach rise : Binary64} {y : ℤ} {q : ℚ}
    (hreach : reach.isFinite = true) (hrise : rise.Exactly q) (hy : InRange y) :
    (∀ p ∈ WholeLengths.drawnBarb reach rise y, PointOf.IsFinite p) ↔ InRange (rounded y + q) := by
  have hanchor := (isFinite_ofInt_iff y).mpr hy
  have hend := isFinite_add_iff hanchor hrise.isFinite
  rw [hrise.toRat_eq] at hend
  rw [WholeLengths.drawnBarb, isFinite_segment_iff]
  constructor
  · rintro ⟨-, -, hfinite⟩
    exact hend.mp hfinite
  · intro h
    exact ⟨isFinite_stem hanchor, isFinite_mk hreach (hend.mpr h)⟩

section Drawing

variable {d : WholeLengths} {pennants longBarbs shortBarbs : ℕ} (hpos : 0 < d.pennantBase)
  (h : d.Reaches pennants longBarbs shortBarbs)

include h

theorem isFinite_drawnPennant (i : ℕ) : ∀ p ∈ d.drawnPennant i, PointOf.IsFinite p := by
  have hcorner (k : ℕ) : (ofInt (d.roundedCorner k)).isFinite = true :=
    (isFinite_ofInt_iff _).mpr (WholeLengths.inRange_roundedCorner h.shaft k)
  have hreach := (isFinite_ofInt_iff d.longBarb).mpr h.longBarb
  rw [WholeLengths.drawnPennant, List.forall_mem_cons, List.forall_mem_cons, isFinite_segment_iff]
  exact ⟨isFinite_stem (hcorner _), isFinite_mk hreach (hcorner _), isFinite_stem (hcorner _),
    isFinite_stem (hcorner _)⟩

include hpos

/-- A glyph that is built has infinite coordinates only at the outer ends of its barbs. -/
theorem isFinite_drawing_iff {short : Binary64} (hshort : short.isFinite = true) :
    (d.drawing short pennants longBarbs shortBarbs).IsFinite ↔
      d.EndsFit pennants longBarbs shortBarbs := by
  have hreach := (isFinite_ofInt_iff d.longBarb).mpr h.longBarb
  have hshaft := (isFinite_ofInt_iff d.shaft).mpr h.shaft
  have hhalf := exactly_ofInt_div_two hpos h.pennantBase
  have hquarter := exactly_ofInt_div_four hpos h.pennantBase
  have hlongBarb (i : ℕ) (hi : i < longBarbs) :=
    isFinite_drawnBarb_iff hreach hhalf (h.longAnchor i hi)
  have hshortBarb (hsome : shortBarbs ≠ 0) :=
    isFinite_drawnBarb_iff hshort hquarter (h.shortAnchor hsome)
  constructor
  · intro hfinite
    refine ⟨fun i hi => (hlongBarb i hi).mp (hfinite _ ?_),
      fun hsome => (hshortBarb hsome).mp (hfinite _ ?_)⟩
    · exact d.mem_drawing.mpr (.inr (.inr (.inl ⟨i, hi, rfl⟩)))
    · exact d.mem_drawing.mpr (.inr (.inr (.inr ⟨hsome, rfl⟩)))
  · intro hends path hpath
    obtain rfl | ⟨i, -, rfl⟩ | ⟨i, hi, rfl⟩ | ⟨hsome, rfl⟩ := d.mem_drawing.mp hpath
    · exact isFinite_segment_iff.mpr ⟨isFinite_stem exactly_zero.isFinite, isFinite_stem hshaft⟩
    · exact isFinite_drawnPennant h i
    · exact (hlongBarb i hi).mpr (hends.longBarb i hi)
    · exact (hshortBarb hsome).mpr (hends.shortBarb hsome)

end Drawing

/-! Glyphs without elements. -/

theorem isFraction_circle {i : ℕ} (h : i < circleParts) :
    (Angle.cosine (Angle.part circleParts i)).isFraction = true ∧
      (Angle.sine (Angle.part circleParts i)).isFraction = true := by
  have hall : ((List.range circleParts).all fun i =>
      (Angle.cosine (Angle.part circleParts i)).isFraction &&
        (Angle.sine (Angle.part circleParts i)).isFraction) = true := by decide +kernel
  exact Bool.and_eq_true_iff.mp (List.all_eq_true.mp hall i (List.mem_range.mpr h))

theorem isFinite_circle {radius : Binary64} (h : radius.isFinite = true) :
    ∀ p ∈ circle radius, PointOf.IsFinite p := by
  have hpoint {i : ℕ} (hi : i < circleParts) : PointOf.IsFinite (circlePoint radius i) := by
    obtain ⟨hcosine, hsine⟩ := isFraction_circle hi
    exact isFinite_mk (isFinite_mul_of_isFraction h hcosine) (isFinite_mul_of_isFraction h hsine)
  rw [circle, List.forall_mem_append, List.forall_mem_map, List.forall_mem_singleton]
  exact ⟨fun i hi => hpoint (List.mem_range.mp hi), hpoint (by decide)⟩

def drawnCross (shaft width : ℤ) : Glyph :=
  let tip := ofInt shaft
  let half := ofInt width / 2
  [[⟨0, 0⟩, ⟨0, tip⟩], [⟨half, tip + half⟩, ⟨-half, tip - half⟩],
    [⟨-half, tip + half⟩, ⟨half, tip - half⟩]]

section Sentinels

variable {p : Profile} {shaft width : ℤ} (hwidth : p.dimensions.calmCircle = .whole width)

include hwidth

theorem calm_yields :
    Yields .tooLarge (calm p) (InRange width) [circle (ofInt width / 2)] := by
  rw [calm, hwidth]
  exact (toBinary64_yields width).map rfl

theorem noData_yields (hshaft : p.dimensions.shaft = .whole shaft) :
    Yields .tooLarge (noData p) (InRange shaft ∧ InRange width) (drawnCross shaft width) := by
  rw [noData, Glyph.shaft, hshaft, hwidth]
  refine (toBinary64_yields shaft).bind fun hfits => (toBinary64_yields width).map ?_
  rw [toBinary64_whole_of_inRange hfits]
  rfl

end Sentinels

theorem isFinite_drawnCross_iff {shaft width : ℤ} (hshaft : InRange shaft) (hwidth : InRange width)
    (hspos : 0 < shaft) (hwpos : 0 < width) :
    (drawnCross shaft width).IsFinite ↔ InRange (rounded shaft + rounded width / 2) := by
  have htip := (isFinite_ofInt_iff shaft).mpr hshaft
  have hhalf := exactly_ofInt_div_two hwpos hwidth
  have hupper := isFinite_add_iff htip hhalf.isFinite
  rw [hhalf.toRat_eq] at hupper
  have hnonneg : 0 ≤ rounded width / 2 := div_nonneg (rounded_nonneg hwidth hwpos.le) two_pos.le
  have hlower : (ofInt shaft - ofInt width / 2).isFinite = true := by
    have hin : InRange (rounded width / 2) := hhalf.toRat_eq ▸ inRange_toRat _
    rw [isFinite_sub_iff htip hhalf.isFinite, hhalf.toRat_eq]
    exact (inRange_toRat _).sub_of_nonneg hin (rounded_nonneg hshaft hspos.le) hnonneg
  rw [IsFinite, drawnCross, List.forall_mem_cons, isFinite_segment_iff, List.forall_mem_cons,
    isFinite_segment_iff, List.forall_mem_singleton, isFinite_segment_iff]
  constructor
  · rintro ⟨-, ⟨htop, -⟩, -⟩
    exact hupper.mp htop.2
  · intro hend
    have hleft : (-(ofInt width / 2)).isFinite = true := hhalf.neg.isFinite
    have htop := hupper.mpr hend
    exact ⟨⟨isFinite_stem exactly_zero.isFinite, isFinite_stem htip⟩,
      ⟨isFinite_mk hhalf.isFinite htop, isFinite_mk hleft hlower⟩,
      isFinite_mk hleft htop, isFinite_mk hhalf.isFinite hlower⟩

end Glyph
end WindSymbols
