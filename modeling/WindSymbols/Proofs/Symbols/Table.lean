import Mathlib.Data.List.Forall2
import Mathlib.Data.List.Nodup
import WindSymbols.Proofs.Failure
import WindSymbols.Proofs.Wind.Classification
import WindSymbols.Proofs.Wind.Exchange
import WindSymbols.Symbols.SymbolSet

/-! The table of a symbol set against the classification of speeds and the builder of glyphs. A
table has one entry for each bucket of its profile, in order (`keys_table`), and holds what the
builder makes of that bucket (`get?_table`). So a look-up succeeds for exactly those buckets that
can be drawn and are in range, and every valid classification is one of them. -/

namespace WindSymbols

theorem Profile.largest_mod (p : Profile) : p.largest % 5 = 0 := by
  have h := p.largest_eq
  unfold Dimensions.largest? at h
  split at h
  · split at h
    · cases h
      assumption
    · cases h
  · rename_i s m _
    dsimp only at h
    split at h
    · rename_i hm
      have hquot : m.units / unitsPerOne = 5 * (m.units / unitsPerOne / 5) := by
        conv => lhs; rw [hm.1]
        exact Nat.mul_div_cancel _ Binary64.unitsPerOne_pos
      have hlargest := Option.some.inj h
      omega
    · cases h
  · cases h

namespace Glyph

theorem ofFamily_eq_ok {family : Int} {p : Profile} {g : Glyph} (h : ofFamily family p = .ok g) :
    0 ≤ family ∧ family % 5 = 0 := by
  unfold ofFamily at h
  split at h
  · rename_i e he
    have hsome : Elements.ofFamily? family ≠ none := by
      rw [he]
      exact Option.some_ne_none e
    rw [Ne, Elements.ofFamily?_eq_none_iff] at hsome
    omega
  · cases h

theorem ofBucket_ofFamily (n : Int) (p : Profile) : ofBucket (.ofFamily n) p = ofFamily n p := by
  simp [ofBucket, Bucket.ofFamily, Bucket.calm, Bucket.noData]

theorem ofBucket_calm (p : Profile) : ofBucket .calm p = (calm p).mapError .outOfRange := by
  simp [ofBucket]

theorem ofBucket_noData (p : Profile) : ofBucket .noData p = (noData p).mapError .outOfRange := by
  simp [ofBucket, Bucket.calm, Bucket.noData]

theorem ofBucket_eq_ok {b : Bucket} {p : Profile} {g : Glyph} (h : ofBucket b p = .ok g) :
    b = .calm ∨ b = .noData ∨ ∃ n : Nat, b = .ofFamily (5 * (n : Int)) := by
  unfold ofBucket at h
  split at h
  · exact .inl ‹_›
  split at h
  · exact .inr (.inl ‹_›)
  obtain ⟨kind, family⟩ := b
  dsimp only at h
  split at h
  · rename_i n _ _
    obtain ⟨hpos, hmod⟩ := ofFamily_eq_ok h
    refine .inr (.inr ⟨(n / 5).toNat, ?_⟩)
    have hn : 5 * ((n / 5).toNat : Int) = n := by omega
    rw [hn]
    rfl
  · cases h
  · cases h

end Glyph

namespace GlyphTable

theorem mem_families {p : Profile} {n : Nat} :
    n ∈ p.families ↔ ∃ i, 5 * i ≤ p.largest ∧ n = 5 * i := by
  have hmod := p.largest_mod
  simp only [Profile.families, List.mem_map, List.mem_range]
  constructor
  · rintro ⟨i, hi, rfl⟩
    exact ⟨i, by omega, rfl⟩
  · rintro ⟨i, hi, rfl⟩
    exact ⟨i, by omega, rfl⟩

theorem mem_buckets {p : Profile} {b : Bucket} :
    b ∈ buckets p ↔
      b = .calm ∨ b = .noData ∨ ∃ n : Nat, 5 * n ≤ p.largest ∧ b = .ofFamily (5 * (n : Int)) := by
  simp only [buckets, List.mem_append, List.mem_map, mem_families, List.mem_cons,
    List.not_mem_nil, or_false]
  constructor
  · rintro (⟨m, ⟨n, hn, rfl⟩, rfl⟩ | rfl | rfl)
    · exact .inr (.inr ⟨n, hn, by simp⟩)
    · exact .inl rfl
    · exact .inr (.inl rfl)
  · rintro (rfl | rfl | ⟨n, hn, rfl⟩)
    · exact .inr (.inl rfl)
    · exact .inr (.inr rfl)
    · exact .inl ⟨5 * n, ⟨n, hn, rfl⟩, by simp⟩

theorem nodup_buckets (p : Profile) : (buckets p).Nodup := by
  have hfamilies : p.families.Nodup := by
    refine List.Nodup.map ?_ List.nodup_range
    intro a b h
    dsimp only at h
    omega
  have hmap : (p.families.map fun n : Nat => Bucket.ofFamily n).Nodup := by
    refine List.Nodup.map ?_ hfamilies
    intro a b h
    simp only [Bucket.ofFamily, BucketOf.mk.injEq, Option.some.injEq, true_and] at h
    omega
  have hsentinels : ∀ n : Nat, Bucket.ofFamily n ≠ .calm ∧ Bucket.ofFamily n ≠ .noData := by
    intro n
    simp [Bucket.ofFamily, Bucket.calm, Bucket.noData]
  rw [buckets, List.nodup_append]
  refine ⟨hmap, by decide, ?_⟩
  intro a ha b hb
  obtain ⟨n, -, rfl⟩ := List.mem_map.mp ha
  rcases List.mem_pair.mp hb with rfl | rfl
  · exact (hsentinels n).1
  · exact (hsentinels n).2

def Draws (p : Profile) (bs : List Bucket) (table : GlyphTable) : Prop :=
  List.Forall₂ (fun b entry => entry.1 = b ∧ Glyph.ofBucket b p = .ok entry.2) bs table

theorem draws_families {p : Profile} {families : List Nat} {table : GlyphTable}
    (h : families.mapM (familyEntry p) = .ok table) :
    Draws p (families.map fun n : Nat => .ofFamily n) table := by
  induction families generalizing table with
  | nil =>
    cases h
    exact .nil
  | cons n rest ih =>
    rw [List.mapM_cons] at h
    obtain ⟨entry, hentry, h⟩ := exists_of_bind_eq_ok h
    obtain ⟨more, hmore, h⟩ := exists_of_bind_eq_ok h
    cases h
    obtain ⟨g, hg, hpair⟩ := exists_of_bind_eq_ok hentry
    cases hpair
    exact .cons ⟨rfl, (Glyph.ofBucket_ofFamily ..).trans hg⟩ (ih hmore)

theorem draws_build {p : Profile} {table : GlyphTable} (h : build p = .ok table) :
    Draws p (buckets p) table := by
  unfold build at h
  obtain ⟨-, -, h⟩ := exists_of_bind_eq_ok h
  obtain ⟨families, hfamilies, h⟩ := exists_of_bind_eq_ok h
  obtain ⟨calm, hcalm, h⟩ := exists_of_bind_eq_ok h
  obtain ⟨noData, hnoData, h⟩ := exists_of_bind_eq_ok h
  cases h
  rw [← Glyph.ofBucket_calm] at hcalm
  rw [← Glyph.ofBucket_noData] at hnoData
  have hsentinels : Draws p [.calm, .noData] [(.calm, calm), (.noData, noData)] :=
    .cons ⟨rfl, hcalm⟩ (.cons ⟨rfl, hnoData⟩ .nil)
  exact List.rel_append (draws_families hfamilies) hsentinels

theorem Draws.keys {p : Profile} {bs : List Bucket} {table : GlyphTable} (h : Draws p bs table) :
    table.map (·.1) = bs := by
  induction h with
  | nil => rfl
  | cons hfirst _ ih => rw [List.map_cons, hfirst.1, ih]

theorem Draws.of_mem {p : Profile} {bs : List Bucket} {table : GlyphTable} (h : Draws p bs table)
    {entry : Bucket × Glyph} (hmem : entry ∈ table) :
    entry.1 ∈ bs ∧ Glyph.ofBucket entry.1 p = .ok entry.2 := by
  induction h with
  | nil => cases hmem
  | cons hfirst _ ih =>
    rcases List.mem_cons.mp hmem with rfl | hmem
    · obtain ⟨rfl, hglyph⟩ := hfirst
      exact ⟨List.mem_cons_self, hglyph⟩
    · exact (ih hmem).imp_left (List.mem_cons_of_mem _)

/-- A look-up gives what the builder would give, for the buckets of the table alone. -/
theorem Draws.get?_eq_some_iff {p : Profile} {bs : List Bucket} {table : GlyphTable}
    (h : Draws p bs table) (b : Bucket) (g : Glyph) :
    table.get? b = some g ↔ b ∈ bs ∧ Glyph.ofBucket b p = .ok g := by
  induction h with
  | nil => simp [get?]
  | @cons first entry bs table hfirst _ ih =>
    obtain ⟨key, glyph⟩ := entry
    obtain ⟨rfl, hglyph⟩ := hfirst
    unfold get? at ih ⊢
    by_cases hb : b = key
    · simp [hb, hglyph]
    · rw [List.lookup_cons, beq_eq_false_iff_ne.mpr hb]
      simp [ih, hb]

end GlyphTable

namespace SymbolSet

theorem keys_table (s : SymbolSet) : s.table.map (·.1) = GlyphTable.buckets s.profile :=
  (GlyphTable.draws_build s.table_eq).keys

theorem get?_table (s : SymbolSet) (b : Bucket) (g : Glyph) :
    s.table.get? b = some g ↔
      b ∈ GlyphTable.buckets s.profile ∧ Glyph.ofBucket b s.profile = .ok g :=
  (GlyphTable.draws_build s.table_eq).get?_eq_some_iff b g

theorem exists_get?_of_mem {s : SymbolSet} {b : Bucket} (h : b ∈ GlyphTable.buckets s.profile) :
    ∃ g, s.table.get? b = some g := by
  rw [← s.keys_table] at h
  obtain ⟨entry, hentry, rfl⟩ := List.mem_map.mp h
  rw [GlyphTable.get?, ← Option.isSome_iff_exists, List.lookup_isSome_iff]
  exact ⟨entry, hentry, beq_self_eq_true _⟩

theorem lookup_eq_ok_iff (s : SymbolSet) (b : Bucket) (g : Glyph) :
    s.lookup b = .ok g ↔ s.table.get? b = some g := by
  unfold lookup
  cases s.table.get? b with
  | some found => simp
  | none =>
    cases reportedKnots b <;> simp [Except.mapError, bind, Except.bind, throw, throwThe,
      MonadExceptOf.throw]

theorem classify_mem_buckets (s : SymbolSet) (x : Binary64) :
    s.classify x = .invalid ∨ s.classify x ∈ GlyphTable.buckets s.profile := by
  rw [GlyphTable.mem_buckets]
  rcases classify_cases x s.profile.largest with h | h | h | ⟨n, -, hn, h⟩
  · exact .inr (.inr (.inl h))
  · exact .inl h
  · exact .inr (.inl h)
  · exact .inr (.inr (.inr ⟨n, by omega, h⟩))

theorem isValid_iff (b : Bucket) : b.isValid = true ↔ b.kind ≠ .invalid := by
  simp [Bucket.isValid]

theorem glyphFor_cases (s : SymbolSet) (x : Binary64) :
    (s.classify x = .invalid ∧
      s.glyphFor (.real x) = .error (.symbol (.noSymbol (.real x) s.profile.largest))) ∨
    (s.classify x ≠ .invalid ∧ (s.classify x).isValid = true ∧
      ∃ g, s.lookup (s.classify x) = .ok g ∧ s.glyphFor (.real x) = .ok g) := by
  rcases s.classify_mem_buckets x with h | h
  · refine .inl ⟨h, ?_⟩
    simp [glyphFor, bucketFor, Scalar.toBinary64, h, Bucket.isValid, Bucket.invalid,
      Except.mapError, bind, Except.bind, pure, Except.pure, throw, throwThe, MonadExceptOf.throw]
  · obtain ⟨g, hg⟩ := exists_get?_of_mem h
    have hlookup := (s.lookup_eq_ok_iff _ g).mpr hg
    have hkind : (s.classify x).kind ≠ .invalid := by
      rw [GlyphTable.mem_buckets] at h
      rcases h with h | h | ⟨n, -, h⟩ <;> rw [h] <;> nofun
    refine .inr ⟨fun heq => hkind (heq ▸ rfl), (isValid_iff _).mpr hkind, g, hlookup, ?_⟩
    simp [glyphFor, bucketFor, Scalar.toBinary64, (isValid_iff _).mpr hkind, hlookup,
      Except.mapError, bind, Except.bind, pure, Except.pure]

theorem keys_table_eq (s : SymbolSet) :
    s.table.map (·.1) =
      (List.range (s.profile.largest / 5 + 1)).map (fun i => .ofFamily (5 * (i : Int))) ++
        [.calm, .noData] := by
  have hcast : (fun n : Nat => Bucket.ofFamily n) ∘ (fun i : Nat => 5 * i) =
      fun i : Nat => Bucket.ofFamily (5 * (i : Int)) := by
    funext i
    simp
  rw [keys_table, GlyphTable.buckets, Profile.families, List.map_map, hcast]

theorem mem_buckets_iff_of_ofBucket {b : Bucket} {p : Profile} {g : Glyph}
    (h : Glyph.ofBucket b p = .ok g) :
    b ∈ GlyphTable.buckets p ↔ (b.kind = .family → ∃ n, b.family = some n ∧ n ≤ p.largest) := by
  rcases Glyph.ofBucket_eq_ok h with rfl | rfl | ⟨n, rfl⟩
  · simp [GlyphTable.mem_buckets, Bucket.calm]
  · simp [GlyphTable.mem_buckets, Bucket.noData]
  · rw [GlyphTable.mem_buckets]
    constructor
    · rintro (h | h | ⟨m, hm, h⟩) -
      · cases h
      · cases h
      · refine ⟨_, rfl, ?_⟩
        simp only [Bucket.ofFamily, BucketOf.mk.injEq, Option.some.injEq, true_and] at h
        omega
    · intro hrange
      obtain ⟨m, hm, hle⟩ := hrange rfl
      have hmn := Option.some.inj hm
      exact .inr (.inr ⟨n, by omega, rfl⟩)

/-- The table of a set covers the classification of speeds and agrees with the builder: its keys
are the families up to the largest, calm and no data; every speed is classified as invalid or as
one of them, so that a speed is refused by its classification and never by the look-up; and
looking a bucket up gives what building it gives, as long as a family is in range. -/
theorem table_covers_classification (s : SymbolSet) :
    s.table.map (·.1) =
        (List.range (s.profile.largest / 5 + 1)).map (fun i => .ofFamily (5 * (i : Int))) ++
          [.calm, .noData] ∧
      5 * (s.profile.largest / 5) = s.profile.largest ∧
      (s.table.map (·.1)).Nodup ∧
      (∀ x : Binary64, x.isFinite = true → ¬ x < calmBelow →
        ∃ n : Nat, 1 ≤ n ∧ familyOf? x = some (5 * (n : Int))) ∧
      (∀ x, s.classify x = .invalid ∨ s.classify x ∈ s.table.map (·.1)) ∧
      (∀ x, s.glyphFor (.real x) = .error (.symbol (.noSymbol (.real x) s.profile.largest)) ↔
        s.classify x = .invalid) ∧
      (∀ x, s.classify x ≠ .invalid →
        ∃ g, s.lookup (s.classify x) = .ok g ∧ s.glyphFor (.real x) = .ok g) ∧
      ∀ b g, s.lookup b = .ok g ↔
        Glyph.ofBucket b s.profile = .ok g ∧
          (b.kind = .family → ∃ n, b.family = some n ∧ n ≤ s.profile.largest) := by
  have hmod := s.profile.largest_mod
  refine ⟨s.keys_table_eq, by omega, ?_, fun _ => familyOf?_eq_some, ?_, ?_, ?_, ?_⟩
  · rw [keys_table]
    exact GlyphTable.nodup_buckets s.profile
  · rw [keys_table]
    exact s.classify_mem_buckets
  · intro x
    rcases s.glyphFor_cases x with ⟨hinvalid, hglyph⟩ | ⟨hvalid, -, g, -, hglyph⟩
    · exact ⟨fun _ => hinvalid, fun _ => hglyph⟩
    · simp [hvalid, hglyph]
  · intro x hx
    rcases s.glyphFor_cases x with ⟨hinvalid, -⟩ | ⟨-, -, hfound⟩
    · exact absurd hinvalid hx
    · exact hfound
  · intro b g
    rw [lookup_eq_ok_iff, get?_table]
    constructor
    · rintro ⟨hmem, hglyph⟩
      exact ⟨hglyph, (mem_buckets_iff_of_ofBucket hglyph).mp hmem⟩
    · rintro ⟨hglyph, hrange⟩
      exact ⟨(mem_buckets_iff_of_ofBucket hglyph).mpr hrange, hglyph⟩

end SymbolSet
end WindSymbols
