import Mathlib.Data.List.Nodup
import WindSymbols.Proofs.Failure
import WindSymbols.Proofs.Text.Lower
import WindSymbols.Symbols.Registry

/-! Registries as registering leads to them. Names are keys, which reading leaves as they are, and
no two sets have the same name (`Reachable.wellNamed`), so a set is found under its own name. -/

namespace WindSymbols

open Text

theorem SymbolSet.build_eq_ok {name : String} {p : Profile} {s : SymbolSet}
    (h : SymbolSet.build name p = .ok s) : s.name = name ∧ s.profile = p := by
  unfold SymbolSet.build at h
  split at h
  · cases h
    exact ⟨rfl, rfl⟩
  · cases h

theorem SymbolSet.exists_build_iff (name : String) (p : Profile) :
    (∃ s, SymbolSet.build name p = .ok s) ↔ ∃ table, GlyphTable.build p = .ok table := by
  unfold SymbolSet.build
  constructor
  · rintro ⟨s, hs⟩
    split at hs
    · exact ⟨_, ‹_›⟩
    · cases hs
  · rintro ⟨table, htable⟩
    split
    · exact ⟨_, rfl⟩
    · rename_i herror
      rw [htable] at herror
      cases herror

theorem SymbolSet.exists_build_standard (name : String) :
    ∃ s, SymbolSet.build name .standard = .ok s := by
  have hbuilds : (GlyphTable.build .standard).toOption.isSome = true := by decide +kernel
  exact (SymbolSet.exists_build_iff name .standard).mpr (exists_of_isSome_toOption hbuilds)

theorem find?_of_nodup_map {α β : Type} [DecidableEq β] {f : α → β} {l : List α}
    (h : (l.map f).Nodup) {a : α} (ha : a ∈ l) : l.find? (fun b => f b = f a) = some a := by
  induction l with
  | nil => cases ha
  | cons b rest ih =>
    obtain ⟨hnew, hrest⟩ := List.nodup_cons.mp h
    rw [List.find?_cons]
    rcases List.mem_cons.mp ha with rfl | ha
    · simp
    · have hne : f b ≠ f a := fun heq => hnew (heq ▸ List.mem_map_of_mem ha)
      simp [hne, ih hrest ha]

namespace Registry

theorem any_name_iff {r : Registry} {name : String} :
    r.any (·.name = name) = true ↔ name ∈ r.map SymbolSet.name := by
  simp

theorem register_eq_ok {r r' : Registry} {name : String} {p : Profile} {replace : Bool}
    {s : SymbolSet} (h : r.register name p replace = .ok (s, r')) :
    nameKey name ≠ "" ∧ SymbolSet.build (nameKey name) p = .ok s ∧ r' = r.publish s ∧
      (nameKey name ∈ r.map SymbolSet.name → replace = true ∧ nameKey name ≠ standardName) := by
  unfold register at h
  dsimp only at h
  by_cases hblank : nameKey name = ""
  · rw [if_pos hblank] at h
    cases h
  rw [if_neg hblank] at h
  obtain ⟨built, hbuild, h⟩ := exists_of_bind_eq_ok h
  split at h
  · cases h
  · rename_i htaken
    cases h
    refine ⟨hblank, mapError_eq_ok_iff.mp hbuild, rfl, fun hmem => ?_⟩
    simpa [any_name_iff.mpr hmem] using htaken

theorem names_publish (r : Registry) (s : SymbolSet) :
    (r.publish s).map SymbolSet.name =
      if s.name ∈ r.map SymbolSet.name then r.map SymbolSet.name
      else r.map SymbolSet.name ++ [s.name] := by
  unfold publish
  by_cases h : s.name ∈ r.map SymbolSet.name
  · rw [if_pos (any_name_iff.mpr h), if_pos h, List.map_map]
    refine List.map_congr_left fun t _ => ?_
    by_cases ht : t.name = s.name <;> simp [ht]
  · rw [if_neg (mt any_name_iff.mp h), if_neg h, List.map_append]
    rfl

theorem mem_publish {r : Registry} {s t : SymbolSet} (h : t ∈ r.publish s) : t = s ∨ t ∈ r := by
  unfold publish at h
  split at h
  · obtain ⟨old, hold, rfl⟩ := List.mem_map.mp h
    split
    · exact .inl rfl
    · exact .inr hold
  · rcases List.mem_append.mp h with h | h
    · exact .inr h
    · exact .inl (List.mem_singleton.mp h)

structure IsKey (name : String) : Prop where
  ne_empty : name ≠ ""
  key_eq : nameKey name = name

theorem IsKey.lower_trim {name : String} (h : IsKey name) :
    lower (trim name.toList) = name.toList := by
  have hchars := congrArg String.toList h.key_eq
  rwa [nameKey, String.toList_ofList] at hchars

theorem IsKey.trim_ne_nil {name : String} (h : IsKey name) : trim name.toList ≠ [] := by
  intro hnil
  have hchars := h.lower_trim
  rw [hnil, lower_eq_nil_iff.mpr rfl] at hchars
  exact h.ne_empty (String.toList_eq_nil_iff.mp hchars.symm)

structure WellNamed (r : Registry) : Prop where
  nodup : (r.map SymbolSet.name).Nodup
  isKey : ∀ s ∈ r, IsKey s.name

theorem WellNamed.publish {r : Registry} {s : SymbolSet} (h : WellNamed r) (hs : IsKey s.name) :
    WellNamed (r.publish s) where
  nodup := by
    rw [names_publish]
    split
    · exact h.nodup
    · rename_i hnew
      rw [List.nodup_append]
      refine ⟨h.nodup, List.nodup_singleton _, ?_⟩
      intro a ha b hb heq
      rw [List.mem_singleton.mp hb] at heq
      exact hnew (heq ▸ ha)
  isKey t ht := by
    rcases mem_publish ht with rfl | ht
    · exact hs
    · exact h.isKey t ht

theorem WellNamed.register {r r' : Registry} {name : String} {p : Profile} {replace : Bool}
    {s : SymbolSet} (h : WellNamed r) (hstep : r.register name p replace = .ok (s, r')) :
    WellNamed r' := by
  obtain ⟨hblank, hbuild, rfl, -⟩ := register_eq_ok hstep
  have hname := (SymbolSet.build_eq_ok hbuild).1
  refine h.publish ⟨?_, ?_⟩
  · rwa [hname]
  · rw [hname, nameKey_nameKey]

theorem wellNamed_initial : WellNamed initial := by
  unfold initial
  split
  · rename_i s hbuild
    have hname := (SymbolSet.build_eq_ok hbuild).1
    refine ⟨List.nodup_singleton _, fun t ht => ?_⟩
    rw [List.mem_singleton.mp ht, hname]
    exact ⟨by decide, by decide⟩
  · exact ⟨List.nodup_nil, List.forall_mem_nil _⟩

/-- The registries that registering leads to. A registration that fails changes nothing. -/
inductive Reachable : Registry → Prop
  | initial : Reachable initial
  | register {r r' : Registry} {name : String} {p : Profile} {replace : Bool} {s : SymbolSet}
      (hr : Reachable r) (hstep : r.register name p replace = .ok (s, r')) : Reachable r'

theorem Reachable.wellNamed {r : Registry} (h : Reachable r) : WellNamed r := by
  induction h with
  | initial => exact wellNamed_initial
  | register _ hstep ih => exact ih.register hstep

theorem WellNamed.get_of_mem {r : Registry} (h : WellNamed r) {s : SymbolSet} (hs : s ∈ r) :
    r.get s.name = .ok s := by
  unfold get find?
  rw [(h.isKey s hs).key_eq, find?_of_nodup_map h.nodup hs]

theorem get_eq_ok {r : Registry} {name : String} {s : SymbolSet} (h : r.get name = .ok s) :
    s ∈ r ∧ s.name = nameKey name := by
  unfold get find? at h
  split at h
  · rename_i t hfound
    cases h
    exact ⟨List.mem_of_find?_eq_some hfound, by simpa using List.find?_some hfound⟩
  · cases h

theorem get_eq_error_iff {r : Registry} {name : String} {e : SymbolError} :
    r.get name = .error e ↔ e = .unknownSet name ∧ ∀ s ∈ r, s.name ≠ nameKey name := by
  unfold get find?
  cases hfound : List.find? (fun s => s.name = nameKey name) r with
  | some s =>
    have hname : s.name = nameKey name := by simpa using List.find?_some hfound
    have hmem := List.mem_of_find?_eq_some hfound
    exact ⟨nofun, fun h => absurd hname (h.2 s hmem)⟩
  | none =>
    have hnone : ∀ s ∈ r, s.name ≠ nameKey name := by simpa using hfound
    constructor
    · intro h
      cases h
      exact ⟨rfl, hnone⟩
    · rintro ⟨rfl, -⟩
      rfl

theorem exists_initial : ∃ s, initial = [s] ∧ s.name = standardName ∧ s.profile = .standard := by
  obtain ⟨s, hs⟩ := SymbolSet.exists_build_standard standardName
  unfold initial
  split
  · rename_i t ht
    exact ⟨t, rfl, SymbolSet.build_eq_ok ht⟩
  · rename_i e he
    exact absurd (hs.symm.trans he) nofun

theorem exists_get_initial :
    ∃ s ∈ initial, s.name = standardName ∧ s.profile = .standard ∧
      initial.get standardName = .ok s := by
  obtain ⟨s, hinitial, hname, hprofile⟩ := exists_initial
  have hs : s ∈ initial := by
    rw [hinitial]
    exact List.mem_singleton_self s
  have hget := wellNamed_initial.get_of_mem hs
  rw [hname] at hget
  exact ⟨s, hs, hname, hprofile, hget⟩

theorem get_initial_eq_error {name : String} (h : standardName ≠ nameKey name) :
    initial.get name = .error (.unknownSet name) := by
  obtain ⟨s, hinitial, hname, -⟩ := exists_initial
  rw [get_eq_error_iff, hinitial, List.forall_mem_singleton, hname]
  exact ⟨rfl, h⟩

end Registry
end WindSymbols
