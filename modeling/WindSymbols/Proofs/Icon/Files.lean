import WindSymbols.Proofs.Icon.Outline
import WindSymbols.Proofs.Number.Digits
import WindSymbols.Proofs.Symbols.Session

/-! The files of an export. Buckets of a table have different names: those of families are made of
digits, and those of calm and no data of letters (`Bucket.eq_of_iconName_eq`). So an export writes
each icon to a location of its own, and after it every bucket has its icon where its name says
(`iconAt?_of_mem`). The generator writes the southern icons one directory below the northern ones,
under the same names (`Registry.icons_of_buckets`). -/

namespace WindSymbols

open Text

/-! Names. -/

namespace Bucket

theorem toList_name_ofFamily (n : Nat) : (Bucket.ofFamily n).name.toList = digitsOf n :=
  integerText_natCast n

theorem name_ofFamily_ne {n : Nat} {s : String} (h : s.toList.head?.any Char.isDigit = false) :
    (Bucket.ofFamily n).name ≠ s := by
  rintro rfl
  obtain ⟨c, cs, hdigits⟩ := List.exists_cons_of_ne_nil (digitsOf_ne_nil n)
  have hc : c.isDigit = true := digits_digitsOf n c (hdigits ▸ List.mem_cons_self)
  rw [toList_name_ofFamily, hdigits, List.head?_cons, Option.any_some, hc] at h
  cases h

theorem name_ofFamily_injective {m n : Nat}
    (h : (Bucket.ofFamily m).name = (Bucket.ofFamily n).name) : m = n := by
  have hdigits := congrArg String.toList h
  rw [toList_name_ofFamily, toList_name_ofFamily] at hdigits
  exact digitsOf_injective hdigits

theorem name_eq_of_iconName_eq {b c : Bucket} (h : b.iconName = c.iconName) : b.name = c.name := by
  have hchars := congrArg String.toList h
  unfold iconName at hchars
  rw [String.toList_append, String.toList_append, String.toList_append, String.toList_append]
    at hchars
  exact String.toList_injective (List.append_cancel_left (List.append_cancel_right hchars))

theorem exists_of_mem_buckets {p : Profile} {b : Bucket} (h : b ∈ GlyphTable.buckets p) :
    b = .calm ∨ b = .noData ∨ ∃ n : Nat, b = .ofFamily n := by
  rcases GlyphTable.mem_buckets.mp h with h | h | ⟨n, -, h⟩
  · exact .inl h
  · exact .inr (.inl h)
  · exact .inr (.inr ⟨5 * n, by rw [h]; rfl⟩)

theorem eq_of_iconName_eq {p : Profile} {b c : Bucket} (hb : b ∈ GlyphTable.buckets p)
    (hc : c ∈ GlyphTable.buckets p) (h : b.iconName = c.iconName) : b = c := by
  have hname := name_eq_of_iconName_eq h
  rcases exists_of_mem_buckets hb with rfl | rfl | ⟨m, rfl⟩
  · rcases exists_of_mem_buckets hc with rfl | rfl | ⟨n, rfl⟩
    · rfl
    · exact absurd hname (by decide)
    · exact absurd hname.symm (name_ofFamily_ne (by decide))
  · rcases exists_of_mem_buckets hc with rfl | rfl | ⟨n, rfl⟩
    · exact absurd hname (by decide)
    · rfl
    · exact absurd hname.symm (name_ofFamily_ne (by decide))
  · rcases exists_of_mem_buckets hc with rfl | rfl | ⟨n, rfl⟩
    · exact absurd hname (name_ofFamily_ne (by decide))
    · exact absurd hname (name_ofFamily_ne (by decide))
    · rw [name_ofFamily_injective hname]

end Bucket

/-! Locations. -/

theorem Location.append_inj {l : Location} {a b : String} (h : l.append a = l.append b) :
    a = b := by
  have hnames := congrArg Location.names h
  simpa [append] using hnames

theorem Location.length_names_append (l : Location) (name : String) :
    (l.append name).names.length = l.names.length + 1 :=
  List.length_append

/-- The icon at a location after files were written one after the other: the last one written
there. -/
def iconAt? (files : List PlacedFile) (l : Location) : Option Icon :=
  (files.reverse.find? fun f => f.location = l).map (·.file.icon)

theorem iconAt?_of_mem {files : List PlacedFile} (h : (files.map PlacedFile.location).Nodup)
    {f : PlacedFile} (hf : f ∈ files) : iconAt? files f.location = some f.file.icon := by
  have hreverse : (files.reverse.map PlacedFile.location).Nodup := by
    rw [List.map_reverse, List.nodup_reverse]
    exact h
  rw [iconAt?, find?_of_nodup_map hreverse (List.mem_reverse.mpr hf), Option.map_some]

def placed (directory : Location) (files : List IconFile) : List PlacedFile :=
  files.map (⟨directory, ·⟩)

def SymbolSet.iconScale (s : SymbolSet) (size : Nat) : Binary64 :=
  iconFit size (commonExtent (s.table.map (·.2)))

section Export

variable (s : SymbolSet) (size : Nat) (southern : Bool) (directory : Location)

theorem iconFiles_eq :
    iconFiles size southern s.table = s.table.map fun entry =>
      ⟨entry.1.iconName,
        GlyphOf.drawnAt size (s.iconScale size) {} (GlyphOf.inHemisphere southern entry.2)⟩ :=
  rfl

theorem names_iconFiles :
    (iconFiles size southern s.table).map IconFileOf.name =
      s.table.map fun entry => entry.1.iconName := by
  rw [iconFiles_eq, List.map_map]
  rfl

theorem length_iconFiles :
    (iconFiles size southern s.table).length = s.profile.largest / 5 + 3 := by
  have hkeys := congrArg List.length s.keys_table_eq
  rw [List.length_map, List.length_append, List.length_map, List.length_range] at hkeys
  rw [iconFiles_eq, List.length_map, hkeys]
  rfl

theorem locations_placed :
    (placed directory (iconFiles size southern s.table)).map PlacedFile.location =
      (GlyphTable.buckets s.profile).map fun b => directory.append b.iconName := by
  rw [← s.keys_table, iconFiles_eq, placed, List.map_map, List.map_map, List.map_map]
  rfl

theorem nodup_locations_placed :
    ((placed directory (iconFiles size southern s.table)).map PlacedFile.location).Nodup := by
  rw [locations_placed]
  refine List.Nodup.map_on ?_ (GlyphTable.nodup_buckets s.profile)
  exact fun b hb c hc heq => Bucket.eq_of_iconName_eq hb hc (Location.append_inj heq)

theorem iconAt?_placed {b : Bucket} {g : Glyph} (h : (b, g) ∈ s.table) :
    iconAt? (placed directory (iconFiles size southern s.table)) (directory.append b.iconName) =
      some (GlyphOf.drawnAt size (s.iconScale size) {} (GlyphOf.inHemisphere southern g)) := by
  have hfile : (⟨directory, ⟨b.iconName, GlyphOf.drawnAt size (s.iconScale size) {}
      (GlyphOf.inHemisphere southern g)⟩⟩ : PlacedFile) ∈
        placed directory (iconFiles size southern s.table) := by
    rw [placed, iconFiles_eq, List.map_map]
    exact List.mem_map.mpr ⟨_, h, rfl⟩
  exact iconAt?_of_mem (nodup_locations_placed s size southern directory) hfile

end Export

/-! The generator. -/

theorem southern_ne_assets (north south : String) :
    assetsDirectory.append north ≠ southernDirectory.append south := by
  intro h
  have hlength := congrArg (fun l : Location => l.names.length) h
  rw [Location.length_names_append, southernDirectory, Location.length_names_append,
    Location.length_names_append] at hlength
  omega

theorem nodup_locations_generated (s : SymbolSet) (size : Nat) :
    ((placed assetsDirectory (iconFiles size false s.table) ++
      placed southernDirectory (iconFiles size true s.table)).map PlacedFile.location).Nodup := by
  rw [List.map_append, List.nodup_append]
  refine ⟨nodup_locations_placed .., nodup_locations_placed .., ?_⟩
  intro a ha b hb
  rw [locations_placed] at ha hb
  obtain ⟨north, -, rfl⟩ := List.mem_map.mp ha
  obtain ⟨south, -, rfl⟩ := List.mem_map.mp hb
  exact southern_ne_assets _ _

namespace Registry

theorem files_standardIcons {r : Registry} {s : SymbolSet} (h : r.get standardName = .ok s)
    (southern : Bool) :
    (r.exportIcons standardName standardIconSize southern).files =
      .ok (iconFiles 64 southern s.table) := by
  have hsize : standardIconSize = (64 : Nat) := rfl
  rw [hsize]
  exact files_exportIcons h (by decide) southern

theorem generateAll_eq {r : Registry} {north south : List IconFile}
    (hnorth : (r.exportIcons standardName standardIconSize false).files = .ok north)
    (hsouth : (r.exportIcons standardName standardIconSize true).files = .ok south) :
    r.generateAll = .ok (placed assetsDirectory north ++ placed southernDirectory south) := by
  rw [generateAll, hnorth, ok_bind, hsouth, ok_bind]
  rfl

theorem Reachable.exists_get_standardName {r : Registry} (h : Reachable r) :
    ∃ s, r.get standardName = .ok s := by
  obtain ⟨requests, rfl⟩ := reachable_iff_exists_run.mp h
  obtain ⟨s, hget, -⟩ := get_standardName_run requests
  exact ⟨s, hget⟩

/-- Every bucket gets an icon file of its own. An export writes one file for each bucket of its set,
in the order of the table and to different locations, so that after it the location named after a
bucket holds the icon of its glyph, in the scale that all icons of the set share. The generator
writes the northern icons and then the southern ones, to different locations and under the same
names. -/
theorem icons_of_buckets :
    (∀ (r : Registry) (name : String) (s : SymbolSet), r.get name = .ok s →
      ∀ (size : Nat) (southern : Bool) (directory : Location), 9 ≤ size →
        ∃ files, (r.exportIcons name size southern).files = .ok files ∧
          files.length = s.profile.largest / 5 + 3 ∧
          files.map IconFileOf.name = s.table.map (fun entry => entry.1.iconName) ∧
          ((placed directory files).map PlacedFile.location).Nodup ∧
          ∀ b g, (b, g) ∈ s.table → ∃ icon,
            Glyph.render (GlyphOf.inHemisphere southern g) size (some (s.iconScale size)) {} =
                .ok icon ∧
              iconAt? (placed directory files) (directory.append b.iconName) = some icon) ∧
      ∀ r, Reachable r → ∃ north south,
        (r.exportIcons standardName standardIconSize false).files = .ok north ∧
          (r.exportIcons standardName standardIconSize true).files = .ok south ∧
          r.generateAll =
            .ok (placed assetsDirectory north ++ placed southernDirectory south) ∧
          ((placed assetsDirectory north ++ placed southernDirectory south).map
            PlacedFile.location).Nodup ∧
          north.map IconFileOf.name = south.map IconFileOf.name := by
  constructor
  · intro r name s hget size southern directory hsize
    refine ⟨_, files_exportIcons hget hsize southern, length_iconFiles s size southern,
      names_iconFiles s size southern, nodup_locations_placed s size southern directory, ?_⟩
    intro b g hmem
    refine ⟨_, ?_, iconAt?_placed s size southern directory hmem⟩
    rw [Glyph.render_eq hsize, GlyphOf.icon, Option.getD_some]
  · intro r hr
    obtain ⟨s, hget⟩ := hr.exists_get_standardName
    have hnorth := files_standardIcons hget false
    have hsouth := files_standardIcons hget true
    refine ⟨_, _, hnorth, hsouth, generateAll_eq hnorth hsouth,
      nodup_locations_generated s 64, ?_⟩
    rw [names_iconFiles, names_iconFiles]

theorem icons_of_standard_buckets :
    ∃ s files g icon north south,
      initial.get standardName = .ok s ∧ (9 : Nat) ≤ 9 ∧ Reachable initial ∧
        (initial.exportIcons standardName 9 true).files = .ok files ∧ files.length = 23 ∧
        ((placed southernDirectory files).map PlacedFile.location).Nodup ∧
        (Bucket.ofFamily 50, g) ∈ s.table ∧
        Glyph.render (GlyphOf.inHemisphere true g) 9 (some (s.iconScale 9)) {} = .ok icon ∧
        iconAt? (placed southernDirectory files) (southernDirectory.append "wind-50.png") =
          some icon ∧
        initial.generateAll =
          .ok (placed assetsDirectory north ++ placed southernDirectory south) ∧
        north.map IconFileOf.name = south.map IconFileOf.name := by
  obtain ⟨s, -, -, hprofile, hget⟩ := exists_get_initial
  obtain ⟨files, hfiles, hlength, -, hnodup, hicons⟩ :=
    icons_of_buckets.1 initial standardName s hget 9 true southernDirectory (Nat.le_refl 9)
  have hkey : Bucket.ofFamily 50 ∈ s.table.map (·.1) := by
    rw [s.keys_table, GlyphTable.mem_buckets, hprofile]
    exact .inr (.inr ⟨10, by decide, rfl⟩)
  obtain ⟨⟨_, g⟩, hmem, rfl⟩ := List.mem_map.mp hkey
  obtain ⟨icon, hicon, hfile⟩ := hicons _ g hmem
  obtain ⟨north, south, -, -, hgenerated, -, hnames⟩ := icons_of_buckets.2 initial .initial
  have hname : (Bucket.ofFamily 50).iconName = "wind-50.png" := by decide
  rw [hprofile] at hlength
  rw [hname] at hfile
  exact ⟨s, files, g, icon, north, south, hget, Nat.le_refl 9, .initial, hfiles, hlength, hnodup,
    hmem, hicon, hfile, hgenerated, hnames⟩

end Registry
end WindSymbols
