import WindSymbols.Proofs.Glyph.Elements
import WindSymbols.Proofs.Glyph.SamePaths
import WindSymbols.Proofs.Symbols.Reachable
import WindSymbols.Proofs.Symbols.Table
import WindSymbols.Proofs.Wind.Exchange

/-! Reading glyphs back. Pennants, long barbs and short barbs are told apart by their points and
the reach of a barb, so a family can be counted off its glyph (`Hanging.knots_eq`). Glyphs with
equal coordinates are read alike (`reading_eq`), so no two buckets of a table look alike but calm
and the family without elements. -/

namespace WindSymbols

open Binary64

namespace Elements

theorem ofFamily?_bounds {family : Int} {e : Elements} (h : ofFamily? family = some e) :
    0 ≤ e.pennants ∧ 0 ≤ e.longBarbs ∧ (e.shortBarbs = 0 ∨ e.shortBarbs = 1) := by
  obtain ⟨hpennants, hlong, -, hshort, hshort'⟩ := ofFamily?_tidy h
  exact ⟨hpennants, hlong, by omega⟩

end Elements

namespace Glyph

def isTriangle (path : Path) : Bool := path.length = 4 && PathOf.isClosed path

def endsAt (x : Binary64) (path : Path) : Bool :=
  path.length = 2 && path.getLast?.any fun p => p.x.same x

/-- The knots that the paths after the shaft stand for, for barbs of two lengths. -/
def knotsRead (long short : Binary64) (g : Glyph) : Nat :=
  50 * g.tail.countP isTriangle + 10 * g.tail.countP (endsAt long) +
    5 * g.tail.countP (endsAt short)

def startsOnShaft (path : Path) : Bool := path.head?.any fun p => p.x.same 0

theorem zero_same_zero : (0 : Binary64).same 0 = true :=
  same_iff.mpr ⟨_, zero_position, zero_position⟩

theorem IsPennant.isTriangle {path : Path} (h : IsPennant path) : isTriangle path = true := by
  obtain ⟨tip, apex, bottom, rfl, hx, hy⟩ := h
  have hsame : PointOf.same tip tip = true := by
    change (tip.x.same tip.x && tip.y.same tip.y) = true
    rw [hx, zero_same_zero, same_self hy, Bool.and_self]
  simp [Glyph.isTriangle, PathOf.isClosed, hsame]

theorem IsPennant.endsAt {path : Path} (h : IsPennant path) (x : Binary64) :
    endsAt x path = false := by
  obtain ⟨tip, apex, bottom, rfl, -, -⟩ := h
  simp [Glyph.endsAt]

theorem IsPennant.startsOnShaft {path : Path} (h : IsPennant path) :
    startsOnShaft path = true := by
  obtain ⟨tip, apex, bottom, rfl, hx, -⟩ := h
  simp [Glyph.startsOnShaft, hx, zero_same_zero]

theorem IsBarb.isTriangle {reach : Binary64} {path : Path} (h : IsBarb reach path) :
    isTriangle path = false := by
  obtain ⟨y, z, rfl⟩ := h
  simp [Glyph.isTriangle]

theorem IsBarb.endsAt {reach : Binary64} {path : Path} (h : IsBarb reach path) (x : Binary64) :
    endsAt x path = reach.same x := by
  obtain ⟨y, z, rfl⟩ := h
  simp [Glyph.endsAt]

theorem IsBarb.startsOnShaft {reach : Binary64} {path : Path} (h : IsBarb reach path) :
    startsOnShaft path = true := by
  obtain ⟨y, z, rfl⟩ := h
  simp [Glyph.startsOnShaft, zero_same_zero]

namespace Hanging

variable {e : Elements} {long short : Binary64}

theorem mem_paths (hung : Hanging e long short) {path : Path} (h : path ∈ hung.paths) :
    IsPennant path ∨ IsBarb long path ∨ IsBarb short path := by
  rw [paths, List.mem_append, List.mem_append] at h
  obtain (h | h) | h := h
  · exact .inl (hung.isPennant path h)
  · exact .inr (.inl (hung.isLongBarb path h))
  · exact .inr (.inr (hung.isShortBarb path h))

theorem countP_of_forall {f : Path → Bool} {a : Bool} {l : List Path}
    (h : ∀ path ∈ l, f path = a) : l.countP f = if a then l.length else 0 := by
  cases a with
  | true => exact List.countP_eq_length.mpr h
  | false => exact List.countP_eq_zero.mpr fun path hpath => by simp [h path hpath]

theorem countP_paths (hung : Hanging e long short) {f : Path → Bool} {a b c : Bool}
    (hpennant : ∀ path, IsPennant path → f path = a)
    (hlong : ∀ path, IsBarb long path → f path = b)
    (hshort : ∀ path, IsBarb short path → f path = c) :
    hung.paths.countP f =
      (if a then e.pennants.toNat else 0) + (if b then e.longBarbs.toNat else 0) +
        if c then (if e.shortBarbs = 0 then 0 else 1) else 0 := by
  rw [paths, List.countP_append, List.countP_append,
    countP_of_forall fun path h => hpennant path (hung.isPennant path h),
    countP_of_forall fun path h => hlong path (hung.isLongBarb path h),
    countP_of_forall fun path h => hshort path (hung.isShortBarb path h),
    hung.length_pennants, hung.length_longBarbs, hung.length_shortBarbs]

end Hanging

structure Apart (long short : Binary64) : Prop where
  long_same : long.same long = true
  short_same : short.same short = true
  not_same : long.same short = false

variable {e : Elements} {long short : Binary64}

theorem Hanging.knots_eq (hung : Hanging e long short) (hapart : Apart long short)
    (hpennants : 0 ≤ e.pennants) (hlong : 0 ≤ e.longBarbs)
    (hshort : e.shortBarbs = 0 ∨ e.shortBarbs = 1) :
    ((50 * hung.paths.countP isTriangle + 10 * hung.paths.countP (endsAt long) +
      5 * hung.paths.countP (endsAt short) : Nat) : Int) = e.knots := by
  have hnot : short.same long = false := by rw [same_comm, hapart.not_same]
  have htriangles := hung.countP_paths (fun _ h => h.isTriangle) (fun _ h => h.isTriangle)
    fun _ h => h.isTriangle
  have hlongs := hung.countP_paths (fun _ h => h.endsAt long) (fun _ h => h.endsAt long)
    fun _ h => h.endsAt long
  have hshorts := hung.countP_paths (fun _ h => h.endsAt short) (fun _ h => h.endsAt short)
    fun _ h => h.endsAt short
  rw [htriangles, hlongs, hshorts, hapart.long_same, hapart.short_same, hapart.not_same, hnot]
  simp only [Elements.knots, pennantKnots, longBarbKnots, shortBarbKnots, if_true,
    Bool.false_eq_true, if_false]
  obtain h | h := hshort <;> rw [h] <;> simp <;> omega

theorem Hanging.count_kinds (hung : Hanging e long short) (hapart : Apart long short)
    {path : Path} (h : path ∈ hung.paths) :
    [isTriangle path, endsAt long path, endsAt short path].count true = 1 := by
  have hnot : short.same long = false := by rw [same_comm, hapart.not_same]
  obtain h | h | h := hung.mem_paths h
  · rw [h.isTriangle, h.endsAt, h.endsAt]
    rfl
  · rw [h.isTriangle, h.endsAt, h.endsAt, hapart.long_same, hapart.not_same]
    rfl
  · rw [h.isTriangle, h.endsAt, h.endsAt, hapart.short_same, hnot]
    rfl

/-- All that buckets are told apart by. -/
def reading (long short : Binary64) (g : Glyph) : Nat × Bool × Nat :=
  (g.length, g.tail.all startsOnShaft, knotsRead long short g)

theorem reading_eq {g h : Glyph} (hsame : SamePaths g h) :
    reading long short g = reading long short h := by
  have htriangle : ∀ a b, SamePath a b → isTriangle a = isTriangle b := by
    intro a b hab
    rw [isTriangle, isTriangle, hab.isClosed_eq, List.Forall₂.length_eq hab]
  have hends (x : Binary64) : ∀ a b, SamePath a b → endsAt x a = endsAt x b := by
    intro a b hab
    rw [endsAt, endsAt, hab.getLast_x_eq, List.Forall₂.length_eq hab]
  have hstarts : ∀ a b, SamePath a b → startsOnShaft a = startsOnShaft b :=
    fun a b hab => hab.head_x_eq 0
  rw [reading, reading, knotsRead, knotsRead, List.Forall₂.length_eq hsame,
    all_eq_of_forall₂ hstarts hsame.tail, countP_eq_of_forall₂ htriangle hsame.tail,
    countP_eq_of_forall₂ (hends long) hsame.tail, countP_eq_of_forall₂ (hends short) hsame.tail]

theorem calm_eq_ok {p : Profile} {g : Glyph} (h : calm p = .ok g) :
    ∃ radius, g = [circle radius] := by
  obtain ⟨width, -, h⟩ := exists_of_bind_eq_ok h
  cases h
  exact ⟨_, rfl⟩

theorem noData_eq_ok {p : Profile} {g : Glyph} (h : noData p = .ok g) :
    ∃ width, p.dimensions.calmCircle.toBinary64 = .ok width ∧ g.length = 3 ∧
      g.tail.all startsOnShaft = ((width / 2).same 0 && (-(width / 2)).same 0) := by
  unfold noData at h
  obtain ⟨tip, -, h⟩ := exists_of_bind_eq_ok h
  obtain ⟨width, hwidth, h⟩ := exists_of_bind_eq_ok h
  obtain ⟨stem, -, h⟩ := exists_of_bind_eq_ok h
  cases h
  refine ⟨width, hwidth, rfl, ?_⟩
  simp [startsOnShaft]

theorem exists_hanging_of_ofFamily {n : Int} {p : Profile} {g : Glyph}
    (h : ofFamily n p = .ok g) (hn : n ≠ 0) :
    ∃ e long stem, ∃ hung : Hanging e long p.shortBarb,
      Elements.ofFamily? n = some e ∧ p.dimensions.longBarb.toBinary64 = .ok long ∧
        shaft p = .ok stem ∧ g = stem :: hung.paths := by
  unfold ofFamily at h
  split at h
  · rename_i e he
    have hempty : e.isEmpty = false := by
      have hknots := Elements.knots_ofFamily? he
      rw [Bool.eq_false_iff]
      intro hempty
      simp only [Elements.isEmpty, Bool.and_eq_true, decide_eq_true_eq] at hempty
      simp only [Elements.knots, hempty.1.1, hempty.1.2, hempty.2] at hknots
      exact hn (by simpa using hknots.symm)
    have hparts := mapError_eq_ok_iff.mp h
    rw [ofParts, hempty] at hparts
    obtain ⟨long, stem, hung, hlong, hstem, rfl⟩ := exists_hanging hparts
    exact ⟨e, long, stem, hung, he, hlong, hstem, rfl⟩
  · cases h

end Glyph

namespace Profile

def IsWhole (p : Profile) : Prop := ∀ part, (p.dimensions.length part).isWhole = true

theorem IsWhole.exists_length {p : Profile} (h : p.IsWhole) (part : Part) :
    ∃ n : Int, 0 < n ∧ p.dimensions.length part = .whole n := by
  have hpositive := p.positive part
  have hwhole := h part
  cases hlength : p.dimensions.length part with
  | whole n =>
    rw [hlength, Scalar.isPositive, whole_lt_whole, decide_eq_true_iff] at hpositive
    exact ⟨n, hpositive, rfl⟩
  | real x =>
    rw [hlength] at hwhole
    cases hwhole

theorem IsWhole.apart {p : Profile} (h : p.IsWhole) {long : Binary64}
    (hlong : p.dimensions.longBarb.toBinary64 = .ok long) : Glyph.Apart long p.shortBarb := by
  obtain ⟨n, hn, hlength⟩ := h.exists_length .longBarb
  have hshort := p.shortBarb_eq
  change p.dimensions.longBarb = .whole n at hlength
  rw [hlength] at hlong hshort
  obtain ⟨a, ha, -⟩ := Scalar.toBinary64_whole hn hlong
  obtain ⟨b, hb, -⟩ := Scalar.half_whole hn hshort
  refine ⟨same_self ?_, same_self ?_, Scalar.same_half_eq_false hn hlong hshort⟩
  · rw [ha]
    rfl
  · rw [hb]
    rfl

theorem IsWhole.half_calm_same_zero {p : Profile} (h : p.IsWhole) {width : Binary64}
    (hwidth : p.dimensions.calmCircle.toBinary64 = .ok width) : (width / 2).same 0 = false := by
  obtain ⟨n, hn, hlength⟩ := h.exists_length .calmCircle
  change p.dimensions.calmCircle = .whole n at hlength
  rw [hlength] at hwidth
  obtain ⟨m, rfl, hm⟩ := Scalar.toBinary64_whole hn hwidth
  exact div_two_same_zero (Scalar.unitsPerOne_le_of_whole hn hm)

end Profile

namespace SymbolSet

open Glyph

theorem lookup_eq_ok {s : SymbolSet} {b : Bucket} {g : Glyph} (h : s.lookup b = .ok g) :
    b ∈ GlyphTable.buckets s.profile ∧ Glyph.ofBucket b s.profile = .ok g :=
  (s.get?_table b g).mp ((s.lookup_eq_ok_iff b g).mp h)

theorem exists_lookup_family (s : SymbolSet) {n : Nat} (hle : n ≤ s.profile.largest)
    (hmod : n % 5 = 0) : ∃ g, s.lookup (.ofFamily n) = .ok g := by
  have hmem : Bucket.ofFamily n ∈ GlyphTable.buckets s.profile := by
    refine GlyphTable.mem_buckets.mpr (.inr (.inr ⟨n / 5, by omega, ?_⟩))
    congr 1
    omega
  obtain ⟨g, hg⟩ := exists_get?_of_mem hmem
  exact ⟨g, (s.lookup_eq_ok_iff _ g).mpr hg⟩

theorem read_lookup_family {s : SymbolSet} (hwhole : s.profile.IsWhole) {n : Nat} {g : Glyph}
    (hn : n ≠ 0) (h : s.lookup (.ofFamily n) = .ok g) :
    ∃ long, s.profile.dimensions.longBarb.toBinary64 = .ok long ∧
      knotsRead long s.profile.shortBarb g = n ∧ g.tail.all startsOnShaft = true ∧
      ∀ path ∈ g.tail,
        [isTriangle path, endsAt long path, endsAt s.profile.shortBarb path].count true = 1 := by
  have hbuilt := (lookup_eq_ok h).2
  rw [ofBucket_ofFamily] at hbuilt
  obtain ⟨e, long, stem, hung, he, hlong, -, rfl⟩ := exists_hanging_of_ofFamily hbuilt (by omega)
  have hapart := hwhole.apart hlong
  obtain ⟨hpennants, hlongs, hshorts⟩ := Elements.ofFamily?_bounds he
  have hknots := hung.knots_eq hapart hpennants hlongs hshorts
  rw [Elements.knots_ofFamily? he] at hknots
  refine ⟨long, hlong, by exact_mod_cast hknots, ?_, fun _ => hung.count_kinds hapart⟩
  rw [List.all_eq_true]
  intro path hpath
  obtain h | h | h := hung.mem_paths hpath <;> exact h.startsOnShaft

theorem lookup_cases {s : SymbolSet} (hwhole : s.profile.IsWhole) {b : Bucket} {g : Glyph}
    (h : s.lookup b = .ok g) :
    ((b = .calm ∨ b = .ofFamily 0) ∧ g.length = 1) ∨
      (b = .noData ∧ g.length = 3 ∧ g.tail.all startsOnShaft = false) ∨
      ∃ n : Nat, n ≠ 0 ∧ b = .ofFamily n ∧ 2 ≤ g.length ∧ g.tail.all startsOnShaft = true := by
  have hbuilt := (lookup_eq_ok h).2
  obtain rfl | rfl | ⟨k, rfl⟩ := ofBucket_eq_ok hbuilt
  · rw [ofBucket_calm] at hbuilt
    obtain ⟨radius, rfl⟩ := calm_eq_ok (mapError_eq_ok_iff.mp hbuilt)
    exact .inl ⟨.inl rfl, rfl⟩
  · rw [ofBucket_noData] at hbuilt
    obtain ⟨width, hwidth, hlength, hall⟩ := noData_eq_ok (mapError_eq_ok_iff.mp hbuilt)
    rw [hwhole.half_calm_same_zero hwidth, Bool.false_and] at hall
    exact .inr (.inl ⟨rfl, hlength, hall⟩)
  · by_cases hk : k = 0
    · subst hk
      rw [ofBucket_ofFamily] at hbuilt
      obtain ⟨radius, rfl⟩ := calm_eq_ok (mapError_eq_ok_iff.mp hbuilt)
      exact .inl ⟨.inr rfl, rfl⟩
    · have hn : 5 * k ≠ 0 := by omega
      have hlookup : s.lookup (.ofFamily (5 * k : Nat)) = .ok g := by exact_mod_cast h
      obtain ⟨long, -, hknots, hall, -⟩ := read_lookup_family hwhole hn hlookup
      refine .inr (.inr ⟨5 * k, hn, by push_cast; rfl, ?_, hall⟩)
      -- a glyph without elements stands for no knots
      by_contra hshort
      have htail : g.tail = [] := by
        rw [← List.length_eq_zero_iff, List.length_tail]
        omega
      rw [knotsRead, htail] at hknots
      simp at hknots
      omega

/-- Different buckets look different, but for calm and the family without elements. -/
theorem eq_of_samePaths {s : SymbolSet} (hwhole : s.profile.IsWhole) {b c : Bucket} {g h : Glyph}
    (hb : s.lookup b = .ok g) (hc : s.lookup c = .ok h) (hsame : SamePaths g h) :
    b = c ∨ (b = .calm ∨ b = .ofFamily 0) ∧ (c = .calm ∨ c = .ofFamily 0) := by
  have hreading (long : Binary64) :
      reading long s.profile.shortBarb g = reading long s.profile.shortBarb h := reading_eq hsame
  simp only [reading, Prod.mk.injEq] at hreading
  obtain ⟨hlength, hstarts, -⟩ := hreading 0
  obtain ⟨hb0, hg⟩ | ⟨rfl, hg, hgs⟩ | ⟨n, hn, rfl, hg, hgs⟩ := lookup_cases hwhole hb
  · obtain ⟨hc0, hh⟩ | ⟨rfl, hh, hhs⟩ | ⟨m, hm, rfl, hh, hhs⟩ := lookup_cases hwhole hc
    · exact .inr ⟨hb0, hc0⟩
    · omega
    · omega
  · obtain ⟨hc0, hh⟩ | ⟨rfl, hh, hhs⟩ | ⟨m, hm, rfl, hh, hhs⟩ := lookup_cases hwhole hc
    · omega
    · exact .inl rfl
    · rw [hgs, hhs] at hstarts
      cases hstarts
  · obtain ⟨hc0, hh⟩ | ⟨rfl, hh, hhs⟩ | ⟨m, hm, rfl, hh, hhs⟩ := lookup_cases hwhole hc
    · omega
    · rw [hgs, hhs] at hstarts
      cases hstarts
    · obtain ⟨long, hlong, hnknots, -⟩ := read_lookup_family hwhole hn hb
      obtain ⟨long', hlong', hmknots, -⟩ := read_lookup_family hwhole hm hc
      cases hlong.symm.trans hlong'
      have hknots := (hreading long).2.2
      rw [hnknots, hmknots] at hknots
      exact .inl (by rw [hknots])

/-- Glyphs are read back, for whole lengths. Off the glyph of a family its knots are counted, each
path after the shaft once: 50 for a triangle, 10 and 5 for a segment that ends at the reach of a
long or a short barb. Different buckets have different paths, but for calm and the family without
elements, which share the circle. -/
theorem glyphs_read_back (s : SymbolSet) (hwhole : s.profile.IsWhole) :
    (∀ n : Nat, 5 ≤ n → n ≤ s.profile.largest → n % 5 = 0 →
      ∃ long g, s.profile.dimensions.longBarb.toBinary64 = .ok long ∧
        s.lookup (.ofFamily n) = .ok g ∧
        knotsRead long s.profile.shortBarb g = n ∧
        ∀ path ∈ g.tail,
          [isTriangle path, endsAt long path, endsAt s.profile.shortBarb path].count true = 1) ∧
      (∀ b c g h, s.lookup b = .ok g → s.lookup c = .ok h → SamePaths g h →
        b = c ∨ (b = .calm ∨ b = .ofFamily 0) ∧ (c = .calm ∨ c = .ofFamily 0)) ∧
      ∃ radius, s.lookup .calm = .ok [circle radius] ∧
        s.lookup (.ofFamily 0) = .ok [circle radius] := by
  refine ⟨?_, fun _ _ _ _ => eq_of_samePaths hwhole, ?_⟩
  · intro n hn hle hmod
    obtain ⟨g, hg⟩ := s.exists_lookup_family hle hmod
    obtain ⟨long, hlong, hknots, -, hkinds⟩ := read_lookup_family hwhole (by omega) hg
    exact ⟨long, g, hlong, hg, hknots, hkinds⟩
  · obtain ⟨g, hg⟩ := exists_get?_of_mem (GlyphTable.mem_buckets.mpr (.inl rfl))
    obtain ⟨g', hg'⟩ := s.exists_lookup_family (Nat.zero_le _) (Nat.zero_mod 5)
    have hcalm := (lookup_eq_ok ((s.lookup_eq_ok_iff _ g).mpr hg)).2
    have hzero := (lookup_eq_ok hg').2
    rw [ofBucket_calm] at hcalm
    rw [ofBucket_ofFamily] at hzero
    cases hcalm.symm.trans hzero
    obtain ⟨radius, rfl⟩ := calm_eq_ok (mapError_eq_ok_iff.mp hcalm)
    exact ⟨radius, (s.lookup_eq_ok_iff _ _).mpr hg, hg'⟩

theorem standard_glyphs_read_back :
    ∃ s : SymbolSet, s.profile = .standard ∧ s.profile.IsWhole ∧
      (∃ g, s.lookup (.ofFamily 95) = .ok g ∧ knotsRead 20 10 g = 95) ∧
      ∀ g h, s.lookup (.ofFamily 20) = .ok g → s.lookup .noData = .ok h → ¬ SamePaths g h := by
  obtain ⟨s, hs⟩ := SymbolSet.exists_build_standard standardName
  have hprofile := (SymbolSet.build_eq_ok hs).2
  have hwhole : s.profile.IsWhole := by
    rw [hprofile]
    intro part
    cases part <;> rfl
  obtain ⟨hread, hdistinct, -⟩ := s.glyphs_read_back hwhole
  refine ⟨s, hprofile, hwhole, ?_, ?_⟩
  · have hlargest : s.profile.largest = 100 := by rw [hprofile]; rfl
    obtain ⟨long, g, hlong, hg, hknots, -⟩ := hread 95 (by decide) (by omega) (by decide)
    have htwenty : (Scalar.whole 20).toBinary64 = .ok 20 := by decide +kernel
    rw [hprofile] at hlong hknots
    have hlong20 : long = 20 := Except.ok.inj (hlong.symm.trans htwenty)
    rw [hlong20] at hknots
    exact ⟨g, hg, hknots⟩
  · intro g h hg hh hsame
    have hsplit := hdistinct _ _ g h hg hh hsame
    revert hsplit
    decide

end SymbolSet
end WindSymbols
