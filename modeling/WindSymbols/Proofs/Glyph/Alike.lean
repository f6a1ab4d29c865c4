import WindSymbols.Proofs.Glyph.Layout
import WindSymbols.Proofs.Glyph.ReadBack
import Mathlib.Tactic.Linarith

/-! Whether the pennants of a glyph look alike. A half pennant goes down half a base, rounded up as
long as it does not end below the station and rounded down otherwise (`below_of_halfBase_le`,
`below_of_lt_halfBase`), so pennants of an odd base change their shape where the stack passes the
station (`stackAlike_iff`). -/

namespace WindSymbols

open Binary64

def PointOf.raised (c : ℚ) (p : PointOf ℚ) : PointOf ℚ := ⟨p.x, p.y + c⟩

namespace WholeLengths

variable {d : WholeLengths} {pennants : ℕ}

theorem below_of_lt_halfBase {y : ℤ} (h : y < d.halfBase) :
    d.below y = y - d.pennantBase / 2 := by
  rw [halfBase] at h
  have hneg : 2 * y - d.pennantBase = -(d.pennantBase - 2 * y) := by ring
  rw [below, hneg, Int.neg_tdiv, Int.tdiv_eq_ediv_of_nonneg (by omega)]
  omega

theorem corner_succ_of_lt {k : ℕ} (h : d.corner k < d.halfBase) :
    d.corner (k + 1) = d.corner k - d.pennantBase / 2 :=
  below_of_lt_halfBase h

theorem below_of_even (h : Even d.pennantBase) (y : ℤ) : d.below y = y - d.halfBase := by
  by_cases hroom : d.halfBase ≤ y
  · exact d.below_of_halfBase_le hroom
  · obtain ⟨m, hm⟩ := h
    rw [below_of_lt_halfBase (by omega), halfBase]
    omega

theorem below_le (hbase : 0 < d.pennantBase) (y : ℤ) : d.below y ≤ y := by
  by_cases hroom : d.halfBase ≤ y
  · rw [d.below_of_halfBase_le hroom, halfBase]
    omega
  · rw [below_of_lt_halfBase (by omega)]
    omega

theorem corner_le_shaft (hbase : 0 < d.pennantBase) (k : ℕ) : d.corner k ≤ d.shaft := by
  induction k with
  | zero => exact le_refl _
  | succ k ih => exact (below_le hbase _).trans ih

/-- Pennants that are the first one at another height, none of them flat. -/
structure StackAlike (d : WholeLengths) (pennants : ℕ) : Prop where
  apex : ∀ i < pennants, d.corner (2 * i + 1) - d.corner (2 * i) = d.corner 1 - d.corner 0
  lowerEnd : ∀ i < pennants, d.corner (2 * i + 2) - d.corner (2 * i) = d.corner 2 - d.corner 0
  upright : ∀ i < pennants, d.corner (2 * i + 2) < d.corner (2 * i)

theorem StackAlike.corner_eq (h : d.StackAlike pennants) {i : ℕ} (hi : i ≤ pennants) :
    d.corner (2 * i) = d.shaft + i * (d.corner 2 - d.shaft) := by
  induction i with
  | zero =>
    rw [Nat.cast_zero, zero_mul, add_zero]
    rfl
  | succ i ih =>
    have hdown : d.corner (2 * (i + 1)) - d.corner (2 * i) = d.corner 2 - d.shaft :=
      h.lowerEnd i (by omega)
    rw [ih (by omega)] at hdown
    push_cast
    linear_combination hdown

theorem stackAlike_of_step {step : ℤ} (hstep : 0 < step)
    (h : ∀ i < pennants, d.corner (2 * i + 1) = d.corner (2 * i) - step ∧
      d.corner (2 * i + 2) = d.corner (2 * i + 1) - step) : d.StackAlike pennants := by
  have hfirst (hsome : 0 < pennants) :
      d.corner 1 = d.corner 0 - step ∧ d.corner 2 = d.corner 1 - step := h 0 hsome
  refine ⟨fun i hi => ?_, fun i hi => ?_, fun i hi => ?_⟩
  all_goals
    have := hfirst (by omega)
    have := h i hi
    omega

theorem stackAlike_of_even (hbase : 0 < d.pennantBase) (h : Even d.pennantBase) :
    d.StackAlike pennants := by
  have hpos : 0 < d.halfBase := by
    rw [halfBase]
    omega
  exact stackAlike_of_step hpos fun i _ => ⟨below_of_even h _, below_of_even h _⟩

theorem stackAlike_of_le_one (hshaft : 0 < d.shaft) (hbase : 0 < d.pennantBase)
    (h : pennants ≤ 1) : d.StackAlike pennants := by
  have hlower : d.corner 2 ≤ d.corner 1 := below_le hbase _
  have hupper : d.corner 1 < d.shaft := by
    by_cases hroom : d.halfBase ≤ d.shaft
    · rw [corner, corner, d.below_of_halfBase_le hroom, halfBase]
      omega
    · rw [halfBase] at hroom
      rw [corner, corner, below_of_lt_halfBase (by rw [halfBase]; omega)]
      omega
  have hzero {i : ℕ} (hi : i < pennants) : i = 0 := by omega
  refine ⟨fun i hi => ?_, fun i hi => ?_, fun i hi => ?_⟩
  all_goals
    rw [hzero hi]
  exact lt_of_le_of_lt hlower hupper

theorem stackAlike_of_short (hshaft : 0 < d.shaft) (hbase : 0 < d.pennantBase)
    (h : d.shaft < d.halfBase) : d.StackAlike pennants := by
  have hpos : 0 < d.pennantBase / 2 := by
    rw [halfBase] at h
    omega
  have hbelow (k : ℕ) : d.corner (k + 1) = d.corner k - d.pennantBase / 2 :=
    corner_succ_of_lt (lt_of_le_of_lt (corner_le_shaft hbase k) h)
  exact stackAlike_of_step hpos fun i _ => ⟨hbelow _, hbelow _⟩

theorem corner_eq_of_room (hbase : 0 < d.pennantBase)
    (h : pennants * (2 * d.halfBase) ≤ d.shaft) {i : ℕ} (hi : i ≤ pennants) :
    d.corner (2 * i) = d.shaft - i * (2 * d.halfBase) := by
  have hnonneg : 0 ≤ 2 * d.halfBase := by
    rw [halfBase]
    omega
  induction i with
  | zero =>
    rw [Nat.cast_zero, zero_mul, sub_zero]
    rfl
  | succ i ih =>
    have hroom : ((i + 1 : ℕ) : ℤ) * (2 * d.halfBase) ≤ d.shaft :=
      (mul_le_mul_of_nonneg_right (by exact_mod_cast hi) hnonneg).trans h
    push_cast at hroom ⊢
    obtain ⟨hapex, hend⟩ := d.corners_of_room hbase (k := 2 * i) (by linarith [ih (by omega)])
    have hcorner : d.corner (2 * (i + 1)) = d.corner (2 * i + 2) := rfl
    linarith [ih (by omega)]

theorem stackAlike_of_room (hbase : 0 < d.pennantBase)
    (h : pennants * (2 * d.halfBase) ≤ d.shaft) : d.StackAlike pennants := by
  have hpos : 0 < d.halfBase := by
    rw [halfBase]
    omega
  refine stackAlike_of_step hpos fun i hi => d.corners_of_room hbase ?_
  have hroom : ((i + 1 : ℕ) : ℤ) * (2 * d.halfBase) ≤ d.shaft :=
    (mul_le_mul_of_nonneg_right (by exact_mod_cast hi) (by omega)).trans h
  rw [corner_eq_of_room hbase h hi.le]
  push_cast at hroom
  linarith

/-- With an odd base, pennants that are alike have room above the station. -/
theorem StackAlike.room (h : d.StackAlike pennants) (hodd : ¬ Even d.pennantBase)
    (hbase : 0 < d.pennantBase) (hmany : 1 < pennants) (hlong : d.halfBase ≤ d.shaft) :
    pennants * (2 * d.halfBase) ≤ d.shaft := by
  have hhalf : d.pennantBase / 2 = d.halfBase - 1 := by
    rw [Int.not_even_iff] at hodd
    rw [halfBase]
    omega
  have hpos : 0 < d.halfBase := by omega
  have hapex : d.corner 1 = d.shaft - d.halfBase := d.below_of_halfBase_le hlong
  by_contra hroom
  by_cases hfirst : 2 * d.halfBase ≤ d.shaft
  · -- the first pennant has room, and the last one has not
    have hend : d.corner 2 = d.corner 1 - d.halfBase :=
      (d.corners_of_room hbase (k := 0) hfirst).2
    obtain ⟨last, rfl⟩ : ∃ last, pennants = last + 1 := ⟨pennants - 1, by omega⟩
    have hstep : d.corner 2 - d.shaft = -(2 * d.halfBase) := by omega
    have htop : d.corner (2 * last) = d.shaft - last * (2 * d.halfBase) := by
      rw [h.corner_eq (Nat.le_succ last), hstep]
      ring
    have hlow : d.corner (2 * last) < 2 * d.halfBase := by
      push_cast at hroom
      linarith
    have hlastApex : d.corner (2 * last + 1) - d.corner (2 * last) = d.corner 1 - d.shaft :=
      h.apex last last.lt_succ_self
    have hlastEnd : d.corner (2 * last + 2) - d.corner (2 * last) = d.corner 2 - d.shaft :=
      h.lowerEnd last last.lt_succ_self
    by_cases hupper : d.halfBase ≤ d.corner (2 * last)
    · have hcrossing : d.corner (2 * last + 2) = d.corner (2 * last + 1) - d.pennantBase / 2 :=
        corner_succ_of_lt (by omega)
      omega
    · have hcrossing : d.corner (2 * last + 1) = d.corner (2 * last) - d.pennantBase / 2 :=
        corner_succ_of_lt (by omega)
      omega
  · -- the first pennant passes the station, and the second is below it
    have hend : d.corner 2 = d.corner 1 - d.pennantBase / 2 :=
      corner_succ_of_lt (k := 1) (by omega)
    have hnext : d.corner 3 = d.corner 2 - d.pennantBase / 2 :=
      corner_succ_of_lt (k := 2) (by omega)
    have halike : d.corner 3 - d.corner 2 = d.corner 1 - d.shaft := h.apex 1 hmany
    omega

theorem stackAlike_iff (hshaft : 0 < d.shaft) (hbase : 0 < d.pennantBase) :
    d.StackAlike pennants ↔
      Even d.pennantBase ∨ pennants ≤ 1 ∨ d.shaft < d.halfBase ∨
        pennants * (2 * d.halfBase) ≤ d.shaft := by
  constructor
  · intro h
    by_contra hnone
    rw [not_or, not_or, not_or] at hnone
    obtain ⟨hodd, hmany, hlong, hroom⟩ := hnone
    exact hroom (h.room hodd hbase (by omega) (by omega))
  · rintro (heven | hfew | hshort | hroom)
    · exact stackAlike_of_even hbase heven
    · exact stackAlike_of_le_one hshaft hbase hfew
    · exact stackAlike_of_short hshaft hbase hshort
    · exact stackAlike_of_room hbase hroom

/-- A pennant of base one below the station is flat. -/
example : (⟨1, 1, 5, 20⟩ : WholeLengths).corner 2 = (⟨1, 1, 5, 20⟩ : WholeLengths).corner 4 := by
  decide

end WholeLengths

namespace Glyph

def triangles (g : Glyph) : GlyphOf ℚ := exact (List.filter isTriangle g)

/-- Every pennant is the first one moved up or down, and has its lower end below its tip. -/
structure PennantsAlike (g : Glyph) : Prop where
  translate : ∀ first ∈ g.triangles.head?, ∀ path ∈ g.triangles,
    ∃ c, path = first.map (PointOf.raised c)
  upright : ∀ tip apex lowerEnd, [tip, apex, lowerEnd, tip] ∈ g.triangles → lowerEnd.y < tip.y

def isExactTriangle (path : PathOf ℚ) : Bool := path.length = 4 && PathOf.isClosed path

theorem DrawnPath.isTriangle_eq {path : Path} {q : PathOf ℚ} (h : DrawnPath path q) :
    isTriangle path = isExactTriangle q := by
  rw [isTriangle, isExactTriangle, h.length_eq, ← isClosed_exact h.isFinite, h.map_toRat]

theorem Drawn.triangles_eq {g : Glyph} {q : GlyphOf ℚ} (h : Drawn g q) :
    g.triangles = q.filter isExactTriangle := by
  induction h with
  | nil => rfl
  | cons hpath hrest ih =>
    rw [triangles, List.filter_cons, List.filter_cons, hpath.isTriangle_eq]
    split
    · exact congrArg₂ List.cons hpath.map_toRat ih
    · exact ih

section Layout

variable {d : WholeLengths} {pennants longBarbs shortBarbs : ℕ}

theorem isExactTriangle_triangle (i : ℕ) : isExactTriangle (d.triangle i) = true := by
  have hclosed : PathOf.isClosed (d.triangle i) = true := PointOf.same_rat_iff.mpr rfl
  rw [isExactTriangle, hclosed]
  rfl

theorem Drawn.triangles_layout {g : Glyph} (h : Drawn g (d.layout pennants longBarbs shortBarbs)) :
    g.triangles = (List.range pennants).map d.triangle := by
  have hlong :
      ((List.range longBarbs).map (d.longSegment pennants)).filter isExactTriangle = [] := by
    rw [List.filter_eq_nil_iff]
    intro path hpath
    obtain ⟨i, -, rfl⟩ := List.mem_map.mp hpath
    exact Bool.false_ne_true
  have hshort :
      (List.replicate shortBarbs (d.shortSegment pennants longBarbs)).filter isExactTriangle =
        [] := by
    rw [List.filter_eq_nil_iff]
    intro path hpath
    rw [List.eq_of_mem_replicate hpath]
    exact Bool.false_ne_true
  have hpennants : ((List.range pennants).map d.triangle).filter isExactTriangle =
      (List.range pennants).map d.triangle := by
    rw [List.filter_eq_self]
    intro path hpath
    obtain ⟨i, -, rfl⟩ := List.mem_map.mp hpath
    exact isExactTriangle_triangle i
  rw [h.triangles_eq, WholeLengths.layout, List.filter_append, List.filter_append, List.filter_cons,
    hpennants, hlong, hshort, List.append_nil, List.append_nil]
  rfl

theorem exists_raised_iff {i : ℕ} :
    (∃ c, d.triangle i = (d.triangle 0).map (PointOf.raised c)) ↔
      d.corner (2 * i + 1) - d.corner (2 * i) = d.corner 1 - d.corner 0 ∧
        d.corner (2 * i + 2) - d.corner (2 * i) = d.corner 2 - d.corner 0 := by
  have hpoints {c : ℚ} : d.triangle i = (d.triangle 0).map (PointOf.raised c) ↔
      (d.corner (2 * i) : ℚ) = d.corner 0 + c ∧ (d.corner (2 * i + 1) : ℚ) = d.corner 1 + c ∧
        (d.corner (2 * i + 2) : ℚ) = d.corner 2 + c := by
    simp only [WholeLengths.triangle, PointOf.raised, List.map_cons, List.map_nil,
      List.cons.injEq, PointOf.mk.injEq, true_and, and_true, mul_zero, zero_add]
    exact ⟨fun ⟨htip, hapex, hend, _⟩ => ⟨htip, hapex, hend⟩,
      fun ⟨htip, hapex, hend⟩ => ⟨htip, hapex, hend, htip⟩⟩
  simp only [hpoints]
  constructor
  · rintro ⟨c, htip, hapex, hend⟩
    have hupper : (d.corner (2 * i + 1) - d.corner (2 * i) : ℚ) = d.corner 1 - d.corner 0 := by
      linarith
    have hlower : (d.corner (2 * i + 2) - d.corner (2 * i) : ℚ) = d.corner 2 - d.corner 0 := by
      linarith
    exact ⟨by exact_mod_cast hupper, by exact_mod_cast hlower⟩
  · rintro ⟨hupper, hlower⟩
    have hapex : (d.corner (2 * i + 1) : ℚ) - d.corner (2 * i) = d.corner 1 - d.corner 0 := by
      exact_mod_cast hupper
    have hend : (d.corner (2 * i + 2) : ℚ) - d.corner (2 * i) = d.corner 2 - d.corner 0 := by
      exact_mod_cast hlower
    exact ⟨d.corner (2 * i) - d.corner 0, by linarith, by linarith, by linarith⟩

theorem Drawn.pennantsAlike_iff {g : Glyph}
    (h : Drawn g (d.layout pennants longBarbs shortBarbs)) :
    g.PennantsAlike ↔ d.StackAlike pennants := by
  have hmem {path : PathOf ℚ} : path ∈ g.triangles ↔ ∃ i < pennants, d.triangle i = path := by
    rw [h.triangles_layout, List.mem_map]
    simp only [List.mem_range]
  have hfirst : g.triangles.head? = if pennants = 0 then none else some (d.triangle 0) := by
    rw [h.triangles_layout, List.head?_map, List.head?_range]
    split <;> rfl
  constructor
  · intro halike
    have hmoved {i : ℕ} (hi : i < pennants) :
        ∃ c, d.triangle i = (d.triangle 0).map (PointOf.raised c) := by
      have hhead : g.triangles.head? = some (d.triangle 0) := by rw [hfirst, if_neg (by omega)]
      exact halike.translate _ hhead _ (hmem.mpr ⟨i, hi, rfl⟩)
    refine ⟨fun i hi => ?_, fun i hi => ?_, fun i hi => ?_⟩
    · exact (exists_raised_iff.mp (hmoved hi)).1
    · exact (exists_raised_iff.mp (hmoved hi)).2
    · have hupright := halike.upright _ _ _ (hmem.mpr ⟨i, hi, rfl⟩)
      exact Int.cast_lt.mp hupright
  · intro halike
    refine ⟨fun first hhead path hpath => ?_, fun tip apex lowerEnd hpath => ?_⟩
    · obtain ⟨i, hi, rfl⟩ := hmem.mp hpath
      rw [hfirst, if_neg (by omega)] at hhead
      cases hhead
      exact exists_raised_iff.mpr ⟨halike.apex i hi, halike.lowerEnd i hi⟩
    · obtain ⟨i, hi, htriangle⟩ := hmem.mp hpath
      cases htriangle
      exact Int.cast_lt.mpr (halike.upright i hi)

end Layout

theorem circle_pennantsAlike (radius : Binary64) : PennantsAlike [circle radius] := by
  have hnone : triangles [circle radius] = [] := by
    rw [triangles, List.filter_cons_of_neg (by simp [isTriangle, circle, circleParts])]
    rfl
  exact ⟨by simp [hnone], by simp [hnone]⟩

theorem ofFamily?_natCast {n : ℕ} (h : n % 5 = 0) :
    Elements.ofFamily? n =
      some ⟨(n / 50 : ℕ), (n % 50 / 10 : ℕ), (n % 10 / 5 : ℕ)⟩ := by
  have hfamily : ¬ ((n : ℤ) < 0 ∨ (n : ℤ) % shortBarbKnots ≠ 0) := by
    rw [shortBarbKnots]
    omega
  rw [Elements.ofFamily?, if_neg hfamily]
  simp only [pennantKnots, longBarbKnots, shortBarbKnots, Option.some.injEq, ElementsOf.mk.injEq]
  omega

theorem isEmpty_eq_false {n : ℕ} (hn : n % 5 = 0) (hsome : n ≠ 0) :
    Elements.isEmpty ⟨(n / 50 : ℕ), (n % 50 / 10 : ℕ), (n % 10 / 5 : ℕ)⟩ = false := by
  rw [Bool.eq_false_iff]
  simp only [Elements.isEmpty, ne_eq, Bool.and_eq_true, decide_eq_true_eq]
  omega

section Family

variable {p : Profile} {d : WholeLengths} {n : ℕ}

theorem ofFamily_drawn (h : d.Of p) (hn : n % 5 = 0) (hsome : n ≠ 0)
    (hfits : d.Fits (n / 50) (n % 50 / 10) (n % 10 / 5)) :
    ∃ g, ofFamily n p = .ok g ∧ Drawn g (d.layout (n / 50) (n % 50 / 10) (n % 10 / 5)) := by
  obtain ⟨g, hg, hdrawn⟩ := ofElements_drawn h hfits (by omega)
  refine ⟨g, ?_, hdrawn⟩
  rw [ofFamily, ofFamily?_natCast hn]
  dsimp only
  rw [ofParts, isEmpty_eq_false hn hsome, if_neg Bool.false_ne_true, hg]
  rfl

/-- When the pennants of a family look alike, for small whole lengths. With an odd base, a second
pennant looks like the first only if the whole stack has room above the station, each base rounded
up to the next even number, or if the shaft is shorter than half a base. -/
theorem pennants_alike_iff (h : d.Of p) (hn : n ∈ p.families)
    (hfits : d.Fits (n / 50) (n % 50 / 10) (n % 10 / 5)) :
    (n ≠ 0 → ∃ g, ofFamily n p = .ok g) ∧
      ∀ g, ofFamily n p = .ok g →
        (g.PennantsAlike ↔
          Even d.pennantBase ∨ n / 50 ≤ 1 ∨ d.shaft < d.halfBase ∨
            (n / 50 : ℕ) * (2 * d.halfBase) ≤ d.shaft) := by
  obtain ⟨i, -, rfl⟩ := GlyphTable.mem_families.mp hn
  have hmod : 5 * i % 5 = 0 := Nat.mul_mod_right 5 i
  refine ⟨fun hsome => ?_, fun g hg => ?_⟩
  · obtain ⟨g, hg, -⟩ := ofFamily_drawn h hmod hsome hfits
    exact ⟨g, hg⟩
  · by_cases hsome : 5 * i = 0
    · rw [hsome] at hg ⊢
      obtain ⟨radius, rfl⟩ := calm_eq_ok (mapError_eq_ok_iff.mp hg)
      exact ⟨fun _ => .inr (.inl (Nat.zero_le 1)), fun _ => circle_pennantsAlike radius⟩
    · obtain ⟨g', hg', hdrawn⟩ := ofFamily_drawn h hmod hsome hfits
      cases hg.symm.trans hg'
      rw [hdrawn.pennantsAlike_iff, WholeLengths.stackAlike_iff h.pos.1 h.pos.2]

end Family

theorem pennants_alike_standard :
    WholeLengths.standard.Of .standard ∧ 100 ∈ Profile.standard.families ∧
      WholeLengths.standard.Fits 2 0 0 ∧ ∃ g, ofFamily 100 .standard = .ok g ∧ g.PennantsAlike := by
  have hmem : 100 ∈ Profile.standard.families :=
    GlyphTable.mem_families.mpr ⟨20, le_refl 100, rfl⟩
  have hfits : WholeLengths.standard.Fits 2 0 0 := by
    constructor <;> decide
  obtain ⟨hdrawn, hiff⟩ := pennants_alike_iff (n := 100) WholeLengths.of_standard hmem hfits
  obtain ⟨g, hg⟩ := hdrawn (by decide)
  exact ⟨WholeLengths.of_standard, hmem, hfits, g, hg,
    (hiff g hg).mpr (.inr (.inr (.inr (by decide))))⟩

def sevenPennants : Profile :=
  { Profile.standard with
    dimensions := { largest := .whole 350 }
    largest := 350
    largest_eq := by decide }

/-- Six pennants take six units of the shaft each, and the seventh takes five. -/
theorem seventh_pennant_differs :
    350 ∈ sevenPennants.families ∧ ∃ g, ofFamily 350 sevenPennants = .ok g ∧
      g.triangles[0]? = some [⟨0, 40⟩, ⟨20, 37⟩, ⟨0, 34⟩, ⟨0, 40⟩] ∧
      g.triangles[6]? = some [⟨0, 4⟩, ⟨20, 1⟩, ⟨0, -1⟩, ⟨0, 4⟩] ∧ ¬ g.PennantsAlike := by
  have hlengths : WholeLengths.standard.Of sevenPennants := ⟨rfl, rfl, rfl, rfl⟩
  have hfits : WholeLengths.standard.Fits 7 0 0 := by
    constructor <;> decide
  obtain ⟨g, hg, hdrawn⟩ := ofFamily_drawn (n := 350) hlengths (by decide) (by decide) hfits
  refine ⟨GlyphTable.mem_families.mpr ⟨70, le_refl 350, rfl⟩, g, hg, ?_, ?_, ?_⟩
  · rw [hdrawn.triangles_layout]
    decide
  · rw [hdrawn.triangles_layout]
    decide
  · rw [hdrawn.pennantsAlike_iff, WholeLengths.stackAlike_iff (by decide) (by decide)]
    decide

end Glyph
end WindSymbols
