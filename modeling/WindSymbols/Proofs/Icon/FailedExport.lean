import WindSymbols.Icon.Export
import WindSymbols.Proofs.Symbols.Reachable
import WindSymbols.Proofs.Symbols.Table

/-! What a failed export leaves behind. An export checks its size, makes its directory and looks its
set up, in this order, so it ends in one of three ways (`Registry.exportIcons_cases`). Files are
written if and only if it succeeds. A size that is too small leaves no trace, but an unknown set
leaves an empty directory: failures leave no trace exactly where the set is known or the size is
refused first (`Registry.leavesNoTrace_of_failure_iff`). -/

namespace WindSymbols

open Text

namespace Export

def written (e : Export) : List IconFile :=
  match e.files with
  | .ok files => files
  | .error _ => []

def Failed (e : Export) : Prop := ∃ error, e.files = .error error

structure LeavesNoTrace (e : Export) : Prop where
  noDirectory : e.madeDirectory = false
  noFile : e.written = []

end Export

theorem iconSize_cases (size : Int) :
    size < smallestIcon ∧ iconSize size = .error ⟨size⟩ ∨
      smallestIcon ≤ size ∧ iconSize size = .ok size.toNat := by
  unfold iconSize
  by_cases h : size < smallestIcon
  · exact .inl ⟨h, if_pos h⟩
  · exact .inr ⟨Int.not_lt.mp h, if_neg h⟩

theorem SymbolSet.iconFiles_ne_nil (s : SymbolSet) (size : Nat) (southern : Bool) :
    iconFiles size southern s.table ≠ [] := by
  have hkeys : s.table.map (·.1) ≠ [] := by
    rw [s.keys_table, GlyphTable.buckets]
    simp
  unfold iconFiles
  intro hnil
  exact hkeys (List.map_eq_nil_iff.mpr (List.map_eq_nil_iff.mp hnil))

namespace Registry

section

variable (r : Registry) (name : String) (size : Int) (southern : Bool)

/-- The three ways an export ends: at its size, at its set, or with its files. -/
theorem exportIcons_cases :
    (size < smallestIcon ∧
      r.exportIcons name size southern = ⟨false, .error (.tooSmall ⟨size⟩)⟩) ∨
    (smallestIcon ≤ size ∧ (∀ s ∈ r, s.name ≠ nameKey name) ∧
      r.exportIcons name size southern = ⟨true, .error (.symbol (.unknownSet name))⟩) ∨
    (smallestIcon ≤ size ∧ ∃ s ∈ r, s.name = nameKey name ∧
      r.exportIcons name size southern = ⟨true, .ok (iconFiles size.toNat southern s.table)⟩) := by
  unfold exportIcons
  rcases iconSize_cases size with ⟨hsize, hcheck⟩ | ⟨hsize, hcheck⟩
  · exact .inl ⟨hsize, by rw [hcheck]⟩
  · rw [hcheck]
    cases hget : r.get name with
    | error e =>
      obtain ⟨rfl, hunknown⟩ := get_eq_error_iff.mp hget
      exact .inr (.inl ⟨hsize, hunknown, rfl⟩)
    | ok s =>
      obtain ⟨hmem, hname⟩ := get_eq_ok hget
      exact .inr (.inr ⟨hsize, s, hmem, hname, rfl⟩)

theorem files_eq_error_iff (error : ExportError) :
    (r.exportIcons name size southern).files = .error error ↔
      size < smallestIcon ∧ error = .tooSmall ⟨size⟩ ∨
        smallestIcon ≤ size ∧ (∀ s ∈ r, s.name ≠ nameKey name) ∧
          error = .symbol (.unknownSet name) := by
  rcases exportIcons_cases r name size southern with
    ⟨hsize, h⟩ | ⟨hsize, hunknown, h⟩ | ⟨hsize, s, hmem, hname, h⟩
  · rw [h, Except.error.injEq]
    constructor
    · exact fun herror => .inl ⟨hsize, herror.symm⟩
    · rintro (⟨-, herror⟩ | ⟨hle, -⟩)
      · exact herror.symm
      · omega
  · rw [h, Except.error.injEq]
    constructor
    · exact fun herror => .inr ⟨hsize, hunknown, herror.symm⟩
    · rintro (⟨hlt, -⟩ | ⟨-, -, herror⟩)
      · omega
      · exact herror.symm
  · rw [h]
    refine ⟨nofun, ?_⟩
    rintro (⟨hlt, -⟩ | ⟨-, hunknown, -⟩)
    · omega
    · exact absurd hname (hunknown s hmem)

theorem failed_iff :
    (r.exportIcons name size southern).Failed ↔
      size < smallestIcon ∨ ∀ s ∈ r, s.name ≠ nameKey name := by
  unfold Export.Failed
  simp only [files_eq_error_iff]
  by_cases hsize : size < smallestIcon
  · simp [hsize]
  · simp [hsize, Int.not_lt.mp hsize]

theorem written_eq_nil_iff :
    (r.exportIcons name size southern).written = [] ↔
      (r.exportIcons name size southern).Failed := by
  rcases exportIcons_cases r name size southern with
    ⟨-, h⟩ | ⟨-, -, h⟩ | ⟨-, s, -, -, h⟩
  · rw [h]
    exact ⟨fun _ => ⟨_, rfl⟩, fun _ => rfl⟩
  · rw [h]
    exact ⟨fun _ => ⟨_, rfl⟩, fun _ => rfl⟩
  · rw [h]
    constructor
    · intro hnil
      exact absurd hnil (s.iconFiles_ne_nil size.toNat southern)
    · rintro ⟨error, herror⟩
      cases herror

theorem madeDirectory_eq_false_iff :
    (r.exportIcons name size southern).madeDirectory = false ↔ size < smallestIcon := by
  rcases exportIcons_cases r name size southern with
    ⟨hsize, h⟩ | ⟨hsize, -, h⟩ | ⟨hsize, s, -, -, h⟩
  · rw [h]
    exact ⟨fun _ => hsize, fun _ => rfl⟩
  · rw [h]
    exact ⟨nofun, fun hlt => by omega⟩
  · rw [h]
    exact ⟨nofun, fun hlt => by omega⟩

theorem leavesNoTrace_iff :
    (r.exportIcons name size southern).LeavesNoTrace ↔ size < smallestIcon := by
  constructor
  · exact fun h => (madeDirectory_eq_false_iff ..).mp h.noDirectory
  · intro hsize
    refine ⟨(madeDirectory_eq_false_iff ..).mpr hsize, ?_⟩
    exact (written_eq_nil_iff ..).mpr ((failed_iff ..).mpr (.inl hsize))

end

/-- What fails and what stays behind. An export fails if its size is too small or its set is
unknown, with the size told first, and it writes files if and only if it does not fail. Its
directory is there unless the size is too small. So a failure leaves no trace exactly if the size is
too small or the set is known. -/
theorem leavesNoTrace_of_failure_iff (r : Registry) (name : String) (size : Int)
    (southern : Bool) :
    (∀ error, (r.exportIcons name size southern).files = .error error ↔
        size < smallestIcon ∧ error = .tooSmall ⟨size⟩ ∨
          smallestIcon ≤ size ∧ (∀ s ∈ r, s.name ≠ nameKey name) ∧
            error = .symbol (.unknownSet name)) ∧
      ((r.exportIcons name size southern).written = [] ↔
        (r.exportIcons name size southern).Failed) ∧
      ((r.exportIcons name size southern).LeavesNoTrace ↔ size < smallestIcon) ∧
      (((r.exportIcons name size southern).Failed →
          (r.exportIcons name size southern).LeavesNoTrace) ↔
        size < smallestIcon ∨ ∃ s ∈ r, s.name = nameKey name) := by
  refine ⟨files_eq_error_iff r name size southern, written_eq_nil_iff r name size southern,
    leavesNoTrace_iff r name size southern, ?_⟩
  rw [leavesNoTrace_iff, failed_iff]
  constructor
  · intro h
    by_cases hknown : ∃ s ∈ r, s.name = nameKey name
    · exact .inr hknown
    · exact .inl (h (.inr fun s hmem hname => hknown ⟨s, hmem, hname⟩))
  · rintro (hsize | ⟨s, hmem, hname⟩) hfailed
    · exact hsize
    · rcases hfailed with hsize | hunknown
      · exact hsize
      · exact absurd hname (hunknown s hmem)

theorem unknown_set_leaves_directory :
    (initial.exportIcons "pippo" 64 false).files = .error (.symbol (.unknownSet "pippo")) ∧
      (initial.exportIcons "pippo" 64 false).madeDirectory = true ∧
      ¬ (initial.exportIcons "pippo" 64 false).LeavesNoTrace := by
  have hget : initial.get "pippo" = .error (.unknownSet "pippo") :=
    get_initial_eq_error (by decide)
  have hexport : initial.exportIcons "pippo" 64 false =
      ⟨true, .error (.symbol (.unknownSet "pippo"))⟩ := by
    have hsize : iconSize 64 = .ok 64 := rfl
    simp only [exportIcons, hsize, hget]
  rw [hexport]
  exact ⟨rfl, rfl, fun h => nomatch h.noDirectory⟩

end Registry
end WindSymbols
