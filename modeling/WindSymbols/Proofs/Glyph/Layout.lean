import WindSymbols.Glyph.Build
import WindSymbols.Proofs.Failure
import WindSymbols.Proofs.Glyph.Exact
import WindSymbols.Proofs.Number.Quarter
import WindSymbols.Proofs.Wind.Classification

/-! Where the elements of a glyph hang, for whole lengths. The walk from the tip down is one over
whole numbers (`WholeLengths.corner`, `WholeLengths.longAnchor`), and as long as it keeps within 50
binary digits nothing is rounded on the way (`ofElements_drawn`). What is drawn is then the layout,
point by point (`ofElements_layout`). -/

namespace WindSymbols

open Binary64

structure WholeLengths where
  shaft : ℤ
  pennantBase : ℤ
  spacing : ℤ
  longBarb : ℤ

namespace WholeLengths

structure Of (d : WholeLengths) (p : Profile) : Prop where
  shaft_eq : p.dimensions.shaft = .whole d.shaft
  pennantBase_eq : p.dimensions.pennantBase = .whole d.pennantBase
  spacing_eq : p.dimensions.spacing = .whole d.spacing
  longBarb_eq : p.dimensions.longBarb = .whole d.longBarb

theorem Of.pos {d : WholeLengths} {p : Profile} (h : d.Of p) :
    0 < d.shaft ∧ 0 < d.pennantBase := by
  have hshaft := p.positive .shaft
  have hbase := p.positive .pennantBase
  rw [Dimensions.length, h.shaft_eq, Scalar.isPositive, whole_lt_whole,
    decide_eq_true_iff] at hshaft
  rw [Dimensions.length, h.pennantBase_eq, Scalar.isPositive, whole_lt_whole,
    decide_eq_true_iff] at hbase
  exact ⟨hshaft, hbase⟩

def standard : WholeLengths := ⟨40, 5, 5, 20⟩

theorem of_standard : standard.Of .standard := ⟨rfl, rfl, rfl, rfl⟩

variable (d : WholeLengths)

def halfBase : ℤ := (d.pennantBase + 1) / 2

def below (y : ℤ) : ℤ := (2 * y - d.pennantBase).tdiv 2

/-- The tip of the first pennant, its apex, its lower end, the apex of the second, and so on. -/
def corner : ℕ → ℤ
  | 0 => d.shaft
  | k + 1 => d.below (corner k)

def triangle (i : ℕ) : PathOf ℚ :=
  [⟨0, d.corner (2 * i)⟩, ⟨d.longBarb, d.corner (2 * i + 1)⟩, ⟨0, d.corner (2 * i + 2)⟩,
    ⟨0, d.corner (2 * i)⟩]

/-- Long barbs begin at the tip, or one spacing below the pennants. -/
def firstAnchor (pennants : ℕ) : ℤ :=
  if pennants = 0 then d.shaft else d.corner (2 * pennants) - d.spacing

def longAnchor (pennants i : ℕ) : ℤ := d.firstAnchor pennants - i * d.spacing

/-- The last long barb's anchor, else the last pennant's lower end, else the tip. -/
def lowestAnchor (pennants : ℕ) : ℕ → ℤ
  | 0 => d.corner (2 * pennants)
  | longBarbs + 1 => d.longAnchor pennants longBarbs

def shortAnchor (pennants longBarbs : ℕ) : ℤ := d.lowestAnchor pennants longBarbs - d.spacing

/-- Where the walk stands after the long barbs, one spacing below each group. -/
def cursor (pennants : ℕ) : ℕ → ℤ
  | 0 => d.firstAnchor pennants
  | longBarbs + 1 => d.shortAnchor pennants (longBarbs + 1)

def segment (y : ℤ) (reach rise : ℚ) : PathOf ℚ := [⟨0, y⟩, ⟨reach, y + rise⟩]

def longSegment (pennants i : ℕ) : PathOf ℚ :=
  segment (d.longAnchor pennants i) d.longBarb (d.pennantBase / 2)

def shortSegment (pennants longBarbs : ℕ) : PathOf ℚ :=
  segment (d.shortAnchor pennants longBarbs) (d.longBarb / 2) (d.pennantBase / 4)

def stem : PathOf ℚ := [⟨0, 0⟩, ⟨0, d.shaft⟩]

def layout (pennants longBarbs shortBarbs : ℕ) : GlyphOf ℚ :=
  d.stem :: (List.range pennants).map d.triangle ++
    (List.range longBarbs).map (d.longSegment pennants) ++
    List.replicate shortBarbs (d.shortSegment pennants longBarbs)

/-- Lengths and positions that are small. -/
structure Fits (pennants longBarbs shortBarbs : ℕ) : Prop where
  shaft : IsSmall d.shaft
  pennantBase : IsSmall d.pennantBase
  spacing : IsSmall d.spacing
  longBarb : IsSmall d.longBarb
  corner : ∀ k ≤ 2 * pennants, IsSmall (d.corner k)
  longAnchor : ∀ i < longBarbs, IsSmall (d.longAnchor pennants i)
  shortAnchor : shortBarbs ≠ 0 → IsSmall (d.shortAnchor pennants longBarbs)

theorem longAnchor_zero (pennants : ℕ) : d.longAnchor pennants 0 = d.firstAnchor pennants := by
  rw [longAnchor, Nat.cast_zero, zero_mul, sub_zero]

theorem longAnchor_succ (pennants i : ℕ) :
    d.longAnchor pennants (i + 1) = d.longAnchor pennants i - d.spacing := by
  rw [longAnchor, longAnchor]
  push_cast
  ring

theorem cursor_eq {pennants longBarbs : ℕ} (h : pennants ≠ 0 ∨ longBarbs ≠ 0) :
    d.cursor pennants longBarbs = d.shortAnchor pennants longBarbs := by
  cases longBarbs with
  | zero => rw [cursor, firstAnchor, if_neg (by omega), shortAnchor, lowestAnchor]
  | succ longBarbs => rfl

/-- As long as it stays above the station, a position is lowered by half a base rounded up. -/
theorem below_of_halfBase_le {y : ℤ} (h : d.halfBase ≤ y) : d.below y = y - d.halfBase := by
  rw [halfBase] at h ⊢
  rw [below, Int.tdiv_eq_ediv_of_nonneg (by omega)]
  omega

theorem corners_of_room (hbase : 0 < d.pennantBase) {k : ℕ} (h : 2 * d.halfBase ≤ d.corner k) :
    d.corner (k + 1) = d.corner k - d.halfBase ∧
      d.corner (k + 2) = d.corner (k + 1) - d.halfBase := by
  have hnonneg : 0 ≤ d.halfBase := by
    rw [halfBase]
    omega
  have hapex : d.corner (k + 1) = d.corner k - d.halfBase := d.below_of_halfBase_le (by omega)
  exact ⟨hapex, d.below_of_halfBase_le (by omega)⟩

theorem length_layout (pennants longBarbs shortBarbs : ℕ) :
    (d.layout pennants longBarbs shortBarbs).length = 1 + pennants + longBarbs + shortBarbs := by
  simp only [layout, List.length_append, List.length_cons, List.length_map, List.length_range,
    List.length_replicate]
  omega

end WholeLengths

def PointOf.Exactly (p : Point) (q : PointOf ℚ) : Prop := p.x.Exactly q.x ∧ p.y.Exactly q.y

namespace Glyph

abbrev DrawnPath : Path → PathOf ℚ → Prop := List.Forall₂ PointOf.Exactly

abbrev Drawn : List Path → List (PathOf ℚ) → Prop := List.Forall₂ DrawnPath

theorem map_toRat_of_exactly {p : Point} {q : PointOf ℚ} (h : p.Exactly q) : p.map toRat = q := by
  obtain ⟨x, y⟩ := q
  rw [PointOf.map, h.1.toRat_eq, h.2.toRat_eq]

theorem DrawnPath.isFinite {path : Path} {q : PathOf ℚ} (h : DrawnPath path q) :
    ∀ p ∈ path, PointOf.IsFinite p := by
  induction h with
  | nil => exact List.forall_mem_nil _
  | cons hpoint _ ih => exact List.forall_mem_cons.mpr ⟨⟨hpoint.1.isFinite, hpoint.2.isFinite⟩, ih⟩

theorem DrawnPath.map_toRat {path : Path} {q : PathOf ℚ} (h : DrawnPath path q) :
    path.map (PointOf.map toRat) = q := by
  induction h with
  | nil => rfl
  | cons hpoint _ ih => rw [List.map_cons, map_toRat_of_exactly hpoint, ih]

theorem Drawn.isFinite {g : Glyph} {q : GlyphOf ℚ} (h : Drawn g q) : g.IsFinite := by
  induction h with
  | nil => exact List.forall_mem_nil _
  | cons hpath _ ih => exact List.forall_mem_cons.mpr ⟨hpath.isFinite, ih⟩

theorem Drawn.exact_eq {g : Glyph} {q : GlyphOf ℚ} (h : Drawn g q) : g.exact = q := by
  induction h with
  | nil => rfl
  | cons hpath _ ih => exact congrArg₂ List.cons hpath.map_toRat ih

theorem sub_whole (m n : ℤ) : (Scalar.whole m).sub (.whole n) = .ok (.whole (m - n)) := rfl

theorem barb_drawn {y k : ℤ} {reach rise : Binary64} {p q : ℚ} (hreach : reach.Exactly p)
    (hrise : rise.Exactly q) (hq : q = k / 4) (hk : |k| ≤ 2 ^ 51) (hy : IsSmall y) :
    ∃ path, barb reach rise (.whole y) = .ok path ∧
      DrawnPath path (WholeLengths.segment y p q) := by
  obtain ⟨x, hx, hxy⟩ := exists_toBinary64 hy
  have hend : (x + rise).Exactly (y + q) := by
    have hyBounds := hy.bounds
    have hkBounds := abs_le.mp hk
    refine hxy.add hrise (k := 4 * y + k) ⟨?_, abs_le.mpr (by omega)⟩
    rw [hq]
    push_cast
    ring
  refine ⟨[⟨0, x⟩, ⟨reach, x + rise⟩], ?_, ?_⟩
  · rw [barb, hx]
    rfl
  · exact .cons ⟨exactly_zero, hxy⟩ (.cons ⟨hreach, hend⟩ .nil)

theorem below_whole {d : WholeLengths} {half : Binary64} {y : ℤ}
    (hhalf : half.Exactly (d.pennantBase / 2)) (hbase : IsSmall d.pennantBase) (hy : IsSmall y) :
    below (.whole y) half = .ok (.whole (d.below y)) := by
  obtain ⟨x, hx, hxy⟩ := exists_toBinary64 hy
  have hdifference : (x - half).Exactly (y - d.pennantBase / 2) := by
    have hyBounds := hy.bounds
    have hbaseBounds := hbase.bounds
    refine hxy.sub hhalf (k := 4 * y - 2 * d.pennantBase) ⟨?_, abs_le.mpr (by omega)⟩
    push_cast
    ring
  have hvalue : (y - d.pennantBase / 2 : ℚ) = (2 * y - d.pennantBase : ℤ) / 2 := by
    push_cast
    ring
  rw [hvalue] at hdifference
  rw [below, hx, ok_bind, hdifference.truncate_eq]
  rfl

section Walk

variable {d : WholeLengths} {reach half : Binary64} (hreach : reach.Exactly d.longBarb)
  (hhalf : half.Exactly (d.pennantBase / 2)) (hbase : IsSmall d.pennantBase)

include hreach hhalf hbase

theorem pennant_drawn {i : ℕ} (hsmall : ∀ k ≤ 2 * (i + 1), IsSmall (d.corner k)) :
    ∃ path, pennant reach half (.whole (d.corner (2 * i))) =
        .ok (path, .whole (d.corner (2 * (i + 1)))) ∧ DrawnPath path (d.triangle i) := by
  have htop := hsmall (2 * i) (by omega)
  have hmiddle := hsmall (2 * i + 1) (by omega)
  have hbottom := hsmall (2 * i + 2) (by omega)
  obtain ⟨x, hx, htip⟩ := exists_toBinary64 htop
  obtain ⟨y, hy, hapex⟩ := exists_toBinary64 hmiddle
  obtain ⟨z, hz, hend⟩ := exists_toBinary64 hbottom
  refine ⟨[⟨0, x⟩, ⟨reach, y⟩, ⟨0, z⟩, ⟨0, x⟩], ?_, ?_⟩
  · rw [pennant, below_whole hhalf hbase htop, ok_bind, ← WholeLengths.corner, hy, ok_bind,
      below_whole hhalf hbase hmiddle, ok_bind, ← WholeLengths.corner, hx, ok_bind, hz]
    rfl
  · exact .cons ⟨exactly_zero, htip⟩ (.cons ⟨hreach, hapex⟩ (.cons ⟨exactly_zero, hend⟩
      (.cons ⟨exactly_zero, htip⟩ .nil)))

theorem pennants_drawn (count i : ℕ)
    (hsmall : ∀ k ≤ 2 * (i + count), IsSmall (d.corner k)) :
    ∃ paths, pennants reach half count (.whole (d.corner (2 * i))) =
        .ok (paths, .whole (d.corner (2 * (i + count)))) ∧
      Drawn paths ((List.range' i count).map d.triangle) := by
  induction count generalizing i with
  | zero => exact ⟨[], rfl, .nil⟩
  | succ count ih =>
    obtain ⟨path, hpath, hdrawn⟩ :=
      pennant_drawn hreach hhalf hbase (i := i) fun k hk => hsmall k (by omega)
    have hnext : i + 1 + count = i + (count + 1) := by omega
    obtain ⟨paths, hpaths, hrest⟩ := ih (i + 1) fun k hk => hsmall k (by omega)
    refine ⟨path :: paths, ?_, ?_⟩
    · -- the walk goes on from the lower end of the pennant just drawn
      rw [pennants, hpath, ok_bind]
      dsimp only
      rw [hpaths, hnext]
      rfl
    · rw [List.range'_succ, List.map_cons]
      exact .cons hdrawn hrest

theorem longBarb_drawn {pennants i : ℕ} (hsmall : IsSmall (d.longAnchor pennants i)) :
    ∃ path, barb reach half (.whole (d.longAnchor pennants i)) = .ok path ∧
      DrawnPath path (d.longSegment pennants i) := by
  have hbounds := hbase.bounds
  refine barb_drawn hreach hhalf (k := 2 * d.pennantBase) ?_ (abs_le.mpr (by omega)) hsmall
  push_cast
  ring

theorem barbsBelow_drawn (pennants count i : ℕ)
    (hsmall : ∀ k ≤ i + count, IsSmall (d.longAnchor pennants k)) :
    ∃ paths, barbsBelow reach half (.whole d.spacing) count (.whole (d.longAnchor pennants i)) =
        .ok (paths, .whole (d.longAnchor pennants (i + count))) ∧
      Drawn paths ((List.range' (i + 1) count).map (d.longSegment pennants)) := by
  induction count generalizing i with
  | zero => exact ⟨[], rfl, .nil⟩
  | succ count ih =>
    obtain ⟨path, hpath, hdrawn⟩ :=
      longBarb_drawn hreach hhalf hbase (hsmall (i + 1) (by omega))
    have hnext : i + 1 + count = i + (count + 1) := by omega
    obtain ⟨paths, hpaths, hrest⟩ := ih (i + 1) fun k hk => hsmall k (by omega)
    refine ⟨path :: paths, ?_, ?_⟩
    · rw [barbsBelow, sub_whole, ok_bind, ← d.longAnchor_succ, hpath, ok_bind, hpaths, hnext]
      rfl
    · rw [List.range'_succ, List.map_cons]
      exact .cons hdrawn hrest

theorem barbs_drawn {pennants count : ℕ}
    (hsmall : ∀ i < count, IsSmall (d.longAnchor pennants i)) :
    ∃ paths last,
      barbs reach half (.whole d.spacing) count (.whole (d.firstAnchor pennants)) =
        .ok (paths, last) ∧
      afterGroup count (.whole d.spacing) last = .ok (.whole (d.cursor pennants count)) ∧
      Drawn paths ((List.range count).map (d.longSegment pennants)) := by
  cases count with
  | zero => exact ⟨[], _, rfl, rfl, .nil⟩
  | succ count =>
    obtain ⟨path, hpath, hdrawn⟩ := longBarb_drawn hreach hhalf hbase (hsmall 0 count.succ_pos)
    obtain ⟨paths, hpaths, hrest⟩ :=
      barbsBelow_drawn hreach hhalf hbase pennants count 0 fun k hk => hsmall k (by omega)
    refine ⟨path :: paths, .whole (d.longAnchor pennants count), ?_, rfl, ?_⟩
    · rw [← d.longAnchor_zero, barbs, hpath, ok_bind, hpaths, Nat.zero_add]
      rfl
    · rw [List.range_eq_range', List.range'_succ, List.map_cons]
      exact .cons hdrawn hrest

end Walk

theorem afterGroup_pennants (d : WholeLengths) (pennants : ℕ) :
    afterGroup pennants (.whole d.spacing) (.whole (d.corner (2 * pennants))) =
      .ok (.whole (d.firstAnchor pennants)) := by
  cases pennants with
  | zero => rfl
  | succ pennants => rfl

section Elements

variable {p : Profile} {d : WholeLengths} {pennants longBarbs shortBarbs : ℕ}

theorem shortBarb_drawn (h : d.Of p) (hfits : d.Fits pennants longBarbs shortBarbs)
    (hshort : shortBarbs ≤ 1) {rise : Binary64} (hrise : rise.Exactly (d.pennantBase / 4)) :
    ∃ paths, shortBarb ⟨pennants, longBarbs, shortBarbs⟩ p p.shortBarb rise
        (.whole (d.cursor pennants longBarbs)) = .ok paths ∧
      Drawn paths (List.replicate shortBarbs (d.shortSegment pennants longBarbs)) := by
  obtain rfl | rfl : shortBarbs = 0 ∨ shortBarbs = 1 := by omega
  · exact ⟨[], rfl, .nil⟩
  · have hreach : p.shortBarb.Exactly (d.longBarb / 2) := by
      have hhalf := p.shortBarb_eq
      rw [h.longBarb_eq] at hhalf
      exact exactly_of_half hfits.longBarb hhalf
    have hbounds := hfits.pennantBase.bounds
    obtain ⟨path, hpath, hdrawn⟩ :=
      barb_drawn hreach hrise rfl (abs_le.mpr (by omega)) (hfits.shortAnchor one_ne_zero)
    refine ⟨[path], ?_, .cons hdrawn .nil⟩
    have hone : ((1 : ℕ) : ℤ) ≠ 0 := one_ne_zero
    rw [shortBarb, if_neg hone]
    -- a short barb on its own is not hung where the walk stands, which is still the tip
    by_cases halone : pennants = 0 ∧ longBarbs = 0
    · obtain ⟨rfl, rfl⟩ := halone
      have hanchor : d.shaft - d.spacing = d.shortAnchor 0 0 := rfl
      dsimp only
      rw [if_pos ⟨rfl, rfl⟩, h.shaft_eq, h.spacing_eq, sub_whole, hanchor, ok_bind, hpath]
      rfl
    · have hsome : ¬ ((pennants : ℤ) = 0 ∧ (longBarbs : ℤ) = 0) := by omega
      dsimp only
      rw [if_neg hsome, d.cursor_eq (by omega), pure_bind, hpath]
      rfl

theorem ofElements_drawn (h : d.Of p) (hfits : d.Fits pennants longBarbs shortBarbs)
    (hshort : shortBarbs ≤ 1) :
    ∃ g, ofElements ⟨pennants, longBarbs, shortBarbs⟩ p = .ok g ∧
      Drawn g (d.layout pennants longBarbs shortBarbs) := by
  obtain ⟨base, hbase, hbaseValue⟩ := exists_toBinary64 hfits.pennantBase
  obtain ⟨reach, hreach, hreachValue⟩ := exists_toBinary64 hfits.longBarb
  obtain ⟨tip, htip, htipValue⟩ := exists_toBinary64 hfits.shaft
  have hhalf := exactly_div_two hfits.pennantBase hbaseValue
  have hquarter := exactly_div_four hfits.pennantBase hbaseValue
  obtain ⟨flags, hflags, hflagsDrawn⟩ :=
    pennants_drawn hreachValue hhalf hfits.pennantBase pennants 0
      fun k hk => hfits.corner k (by omega)
  have htop : d.corner (2 * 0) = d.shaft := rfl
  rw [htop, Nat.zero_add] at hflags
  obtain ⟨long, last, hlong, hlast, hlongDrawn⟩ :=
    barbs_drawn hreachValue hhalf hfits.pennantBase hfits.longAnchor
  obtain ⟨short, hshort, hshortDrawn⟩ := shortBarb_drawn h hfits hshort hquarter
  refine ⟨([⟨0, 0⟩, ⟨0, tip⟩] :: flags) ++ long ++ short, ?_, ?_⟩
  · have hstem : shaft p = .ok [⟨0, 0⟩, ⟨0, tip⟩] := by
      rw [shaft, h.shaft_eq, htip]
      rfl
    -- what the builder does, one group after the other
    rw [ofElements, h.pennantBase_eq, hbase, ok_bind, h.longBarb_eq, hreach, ok_bind, hstem,
      ok_bind]
    dsimp only
    rw [h.shaft_eq, Int.toNat_natCast, hflags, ok_bind]
    dsimp only
    rw [h.spacing_eq, afterGroup_pennants, ok_bind, Int.toNat_natCast, hlong, ok_bind]
    dsimp only
    rw [hlast, ok_bind, hshort]
    rfl
  · have hstem : DrawnPath [⟨0, 0⟩, ⟨0, tip⟩] d.stem :=
      .cons ⟨exactly_zero, exactly_zero⟩ (.cons ⟨exactly_zero, htipValue⟩ .nil)
    rw [← List.range_eq_range'] at hflagsDrawn
    exact List.rel_append (List.rel_append (.cons hstem hflagsDrawn) hlongDrawn) hshortDrawn

/-- The layout of a glyph, for lengths and positions that are small whole numbers. The builder
answers with exactly the paths of `WholeLengths.layout`: a shaft, then triangles each of which hangs
from the one before, then long barbs from the tip or one spacing below the triangles, each one
spacing below the one before, then a short barb one spacing below the lowest of these. Where a
triangle has room for its base above the station, its apex is half a base below its tip and its
lower end half a base below its apex, half a base being rounded up. -/
theorem ofElements_layout (h : d.Of p) (hfits : d.Fits pennants longBarbs shortBarbs)
    (hshort : shortBarbs ≤ 1) :
    (∃ g, ofElements ⟨pennants, longBarbs, shortBarbs⟩ p = .ok g ∧ g.IsFinite ∧
        g.exact = d.layout pennants longBarbs shortBarbs ∧
        g.length = 1 + pennants + longBarbs + shortBarbs) ∧
      ∀ i, 2 * d.halfBase ≤ d.corner (2 * i) →
        d.corner (2 * i + 1) = d.corner (2 * i) - d.halfBase ∧
          d.corner (2 * i + 2) = d.corner (2 * i + 1) - d.halfBase := by
  refine ⟨?_, fun i => d.corners_of_room h.pos.2⟩
  obtain ⟨g, hg, hdrawn⟩ := ofElements_drawn h hfits hshort
  exact ⟨g, hg, hdrawn.isFinite, hdrawn.exact_eq, hdrawn.length_eq.trans (d.length_layout _ _ _)⟩

end Elements

/-- Seven pennants reach the station, and the barbs after them hang below it. -/
theorem ofElements_layout_of_seven :
    WholeLengths.standard.Of .standard ∧ WholeLengths.standard.Fits 7 2 1 ∧ 1 ≤ 1 ∧
      ∃ g, ofElements ⟨7, 2, 1⟩ .standard = .ok g ∧ g.IsFinite ∧ g.length = 11 ∧
        g.exact[1]? = some [⟨0, 40⟩, ⟨20, 37⟩, ⟨0, 34⟩, ⟨0, 40⟩] ∧
        g.exact[7]? = some [⟨0, 4⟩, ⟨20, 1⟩, ⟨0, -1⟩, ⟨0, 4⟩] ∧
        g.exact[8]? = some [⟨0, -6⟩, ⟨20, -7 / 2⟩] ∧
        g.exact[9]? = some [⟨0, -11⟩, ⟨20, -17 / 2⟩] ∧
        g.exact[10]? = some [⟨0, -16⟩, ⟨10, -59 / 4⟩] := by
  have hfits : WholeLengths.standard.Fits 7 2 1 := by
    constructor <;> decide
  obtain ⟨⟨g, hg, hfinite, hexact, hlength⟩, -⟩ :=
    ofElements_layout WholeLengths.of_standard hfits (le_refl 1)
  refine ⟨WholeLengths.of_standard, hfits, le_refl 1, g, hg, hfinite, hlength, ?_⟩
  rw [hexact]
  decide +kernel

end Glyph
end WindSymbols
