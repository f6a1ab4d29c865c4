import WindSymbols.Glyph.Build
import WindSymbols.Proofs.Failure
import WindSymbols.Proofs.Number.Equality

/-! What the builder hangs on a shaft. Whatever a profile's lengths are, a glyph of elements is its
shaft, then as many triangles as there are pennants, then as many barbs of either kind as there are
of that kind (`exists_hanging`). A triangle returns to its tip, and a barb leaves the shaft for its
reach. -/

namespace WindSymbols

namespace Glyph

def IsPennant (path : Path) : Prop :=
  ∃ tip apex bottom : Point,
    path = [tip, apex, bottom, tip] ∧ tip.x = 0 ∧ tip.y.isFinite = true

def IsBarb (reach : Binary64) (path : Path) : Prop := ∃ y z, path = [⟨0, y⟩, ⟨reach, z⟩]

/-- The paths of some elements from the tip down. -/
structure Hanging (e : Elements) (long short : Binary64) where
  pennants : List Path
  longBarbs : List Path
  shortBarbs : List Path
  length_pennants : pennants.length = e.pennants.toNat
  length_longBarbs : longBarbs.length = e.longBarbs.toNat
  length_shortBarbs : shortBarbs.length = if e.shortBarbs = 0 then 0 else 1
  isPennant : ∀ path ∈ pennants, IsPennant path
  isLongBarb : ∀ path ∈ longBarbs, IsBarb long path
  isShortBarb : ∀ path ∈ shortBarbs, IsBarb short path

def Hanging.paths {e : Elements} {long short : Binary64} (h : Hanging e long short) :
    List Path :=
  h.pennants ++ h.longBarbs ++ h.shortBarbs

theorem isFinite_of_sub {x y : Binary64} (h : (x - y).isFinite = true) : x.isFinite = true := by
  cases x with
  | finite => rfl
  | nan => cases h
  | infinite s =>
    cases y with
    | infinite t => cases s <;> cases t <;> cases h
    | nan => cases h
    | finite => cases h

theorem isFinite_of_truncate {x : Binary64} {n : Int} (h : x.truncate = .ok n) :
    x.isFinite = true := by
  cases x with
  | finite => rfl
  | nan => cases h
  | infinite => cases h

theorem isFinite_of_below {position next : Scalar} {step x : Binary64}
    (hx : position.toBinary64 = .ok x) (h : below position step = .ok next) :
    x.isFinite = true := by
  unfold below at h
  obtain ⟨y, hy, h⟩ := exists_of_bind_eq_ok h
  obtain ⟨n, hn, -⟩ := exists_of_bind_eq_ok h
  rw [hx] at hy
  cases hy
  exact isFinite_of_sub (isFinite_of_truncate hn)

theorem pennant_eq_ok {reach halfBase : Binary64} {top bottom : Scalar} {path : Path}
    (h : pennant reach halfBase top = .ok (path, bottom)) : IsPennant path := by
  unfold pennant at h
  obtain ⟨middle, hmiddle, h⟩ := exists_of_bind_eq_ok h
  obtain ⟨y, -, h⟩ := exists_of_bind_eq_ok h
  obtain ⟨low, -, h⟩ := exists_of_bind_eq_ok h
  obtain ⟨tip, htip, h⟩ := exists_of_bind_eq_ok h
  obtain ⟨z, -, h⟩ := exists_of_bind_eq_ok h
  cases h
  exact ⟨_, _, _, rfl, rfl, isFinite_of_below htip hmiddle⟩

theorem pennants_eq_ok {reach halfBase : Binary64} {count : Nat} {top last : Scalar}
    {paths : List Path} (h : pennants reach halfBase count top = .ok (paths, last)) :
    paths.length = count ∧ ∀ path ∈ paths, IsPennant path := by
  induction count generalizing top paths with
  | zero =>
    cases h
    exact ⟨rfl, List.forall_mem_nil _⟩
  | succ count ih =>
    obtain ⟨⟨path, bottom⟩, hpath, h⟩ := exists_of_bind_eq_ok h
    obtain ⟨⟨more, low⟩, hmore, h⟩ := exists_of_bind_eq_ok h
    cases h
    obtain ⟨hlength, hrest⟩ := ih hmore
    exact ⟨by rw [List.length_cons, hlength], List.forall_mem_cons.mpr ⟨pennant_eq_ok hpath, hrest⟩⟩

theorem barb_eq_ok {reach rise : Binary64} {anchor : Scalar} {path : Path}
    (h : barb reach rise anchor = .ok path) : IsBarb reach path := by
  obtain ⟨y, -, h⟩ := exists_of_bind_eq_ok h
  cases h
  exact ⟨_, _, rfl⟩

theorem barbsBelow_eq_ok {reach rise : Binary64} {spacing position last : Scalar} {count : Nat}
    {paths : List Path} (h : barbsBelow reach rise spacing count position = .ok (paths, last)) :
    paths.length = count ∧ ∀ path ∈ paths, IsBarb reach path := by
  induction count generalizing position paths with
  | zero =>
    cases h
    exact ⟨rfl, List.forall_mem_nil _⟩
  | succ count ih =>
    obtain ⟨anchor, -, h⟩ := exists_of_bind_eq_ok h
    obtain ⟨path, hpath, h⟩ := exists_of_bind_eq_ok h
    obtain ⟨⟨more, low⟩, hmore, h⟩ := exists_of_bind_eq_ok h
    cases h
    obtain ⟨hlength, hrest⟩ := ih hmore
    exact ⟨by rw [List.length_cons, hlength], List.forall_mem_cons.mpr ⟨barb_eq_ok hpath, hrest⟩⟩

theorem barbs_eq_ok {reach rise : Binary64} {spacing position last : Scalar} {count : Nat}
    {paths : List Path} (h : barbs reach rise spacing count position = .ok (paths, last)) :
    paths.length = count ∧ ∀ path ∈ paths, IsBarb reach path := by
  cases count with
  | zero =>
    cases h
    exact ⟨rfl, List.forall_mem_nil _⟩
  | succ count =>
    obtain ⟨path, hpath, h⟩ := exists_of_bind_eq_ok h
    obtain ⟨⟨more, low⟩, hmore, h⟩ := exists_of_bind_eq_ok h
    cases h
    obtain ⟨hlength, hrest⟩ := barbsBelow_eq_ok hmore
    exact ⟨by rw [List.length_cons, hlength], List.forall_mem_cons.mpr ⟨barb_eq_ok hpath, hrest⟩⟩

theorem shortBarb_eq_ok {e : Elements} {p : Profile} {reach rise : Binary64} {position : Scalar}
    {paths : List Path} (h : shortBarb e p reach rise position = .ok paths) :
    paths.length = (if e.shortBarbs = 0 then 0 else 1) ∧ ∀ path ∈ paths, IsBarb reach path := by
  unfold shortBarb at h
  by_cases hnone : e.shortBarbs = 0
  · rw [if_pos hnone] at h
    cases h
    exact ⟨(if_pos hnone).symm, List.forall_mem_nil _⟩
  · rw [if_neg hnone] at h
    have hone : ∃ anchor path, barb reach rise anchor = .ok path ∧ paths = [path] := by
      dsimp only at h
      split at h <;>
      · obtain ⟨anchor, -, h⟩ := exists_of_bind_eq_ok h
        obtain ⟨path, hpath, h⟩ := exists_of_bind_eq_ok h
        cases h
        exact ⟨anchor, path, hpath, rfl⟩
    obtain ⟨anchor, path, hpath, rfl⟩ := hone
    exact ⟨(if_neg hnone).symm, List.forall_mem_singleton.mpr (barb_eq_ok hpath)⟩

theorem exists_hanging {e : Elements} {p : Profile} {g : Glyph} (h : ofElements e p = .ok g) :
    ∃ long stem, ∃ hung : Hanging e long p.shortBarb,
      p.dimensions.longBarb.toBinary64 = .ok long ∧ shaft p = .ok stem ∧
        g = stem :: hung.paths := by
  unfold ofElements at h
  obtain ⟨base, -, h⟩ := exists_of_bind_eq_ok h
  obtain ⟨long, hlong, h⟩ := exists_of_bind_eq_ok h
  obtain ⟨stem, hstem, h⟩ := exists_of_bind_eq_ok h
  obtain ⟨⟨flags, position⟩, hflags, h⟩ := exists_of_bind_eq_ok h
  obtain ⟨below, -, h⟩ := exists_of_bind_eq_ok h
  obtain ⟨⟨barbs, position⟩, hbarbs, h⟩ := exists_of_bind_eq_ok h
  obtain ⟨below, -, h⟩ := exists_of_bind_eq_ok h
  obtain ⟨short, hshort, h⟩ := exists_of_bind_eq_ok h
  cases h
  obtain ⟨hflagCount, hflag⟩ := pennants_eq_ok hflags
  obtain ⟨hlongCount, hlongBarb⟩ := barbs_eq_ok hbarbs
  obtain ⟨hshortCount, hshortBarb⟩ := shortBarb_eq_ok hshort
  exact ⟨long, stem, ⟨flags, barbs, short, hflagCount, hlongCount, hshortCount, hflag, hlongBarb,
    hshortBarb⟩, hlong, hstem, rfl⟩

end Glyph
end WindSymbols
