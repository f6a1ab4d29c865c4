import WindSymbols.Proofs.Glyph.ReadBack
import WindSymbols.Proofs.Icon.Margin

/-! What the drawings of a glyph look like, without where they are. A path is filled if it is closed
and has four points, and whatever the lengths of a profile are, only pennants are such paths
(`IsPennant.outline_eq`, `PathOf.outline_of_length`): a barb and a stroke of the cross have two
points, and the calm circle has thirty-three. Reflecting a pennant keeps it closed, so both
hemispheres have the same outlines (`Glyph.outlines_inHemisphere`). -/

namespace WindSymbols

inductive Outline
  | polygon (points : Nat)
  | line (points : Nat)
deriving DecidableEq

section Paths

variable {α : Type} [Coordinate α]

def DrawingOf.outline : DrawingOf α → Outline
  | .polygon points _ => .polygon points.length
  | .line points _ _ => .line points.length

def PathOf.outline (path : PathOf α) : Outline :=
  if path.isClosed && path.length = 4 then .polygon path.length else .line path.length

theorem PathOf.outline_drawn (size : Nat) (scale : α) (pen : Pen) (path : PathOf α) :
    (path.drawn size scale pen).outline = path.outline := by
  unfold PathOf.drawn PathOf.outline
  dsimp only
  rw [List.length_map]
  split <;> exact congrArg _ (List.length_map _)

theorem PathOf.outline_of_length {path : PathOf α} (h : path.length ≠ 4) :
    path.outline = .line path.length := by
  rw [outline, decide_eq_false h, Bool.and_false, if_neg Bool.false_ne_true]

def GlyphOf.outlines (g : GlyphOf α) : List Outline := List.map PathOf.outline g

theorem GlyphOf.outlines_drawnAt (size : Nat) (scale : α) (pen : Pen) (g : GlyphOf α) :
    (g.drawnAt size scale pen).drawings.map DrawingOf.outline = g.outlines := by
  rw [drawnAt, List.map_map, outlines]
  exact List.map_congr_left fun path _ => path.outline_drawn size scale pen

theorem GlyphOf.points_drawings (size : Nat) (scale : α) (pen : Pen) (g : GlyphOf α) :
    (g.drawnAt size scale pen).drawings.map DrawingOf.points =
      List.map (List.map (·.inIcon size scale)) g := by
  rw [drawnAt, List.map_map]
  exact List.map_congr_left fun path _ => path.points_drawn size scale pen

def GlyphOf.inHemisphere (southern : Bool) (g : GlyphOf α) : GlyphOf α :=
  if southern then g.reflected else g

end Paths

namespace Glyph

theorem outline_triangle {tip : Point} (h : tip.IsFinite) (apex bottom : Point) :
    PathOf.outline [tip, apex, bottom, tip] = .polygon 4 := by
  have hsame : PointOf.same tip tip = true :=
    PointOf.same_iff.mpr ⟨Binary64.same_self h.1, Binary64.same_self h.2⟩
  simp [PathOf.outline, PathOf.isClosed, hsame]

theorem IsPennant.exists_tip {path : Path} (h : IsPennant path) :
    ∃ tip apex bottom : Point, path = [tip, apex, bottom, tip] ∧ tip.IsFinite := by
  obtain ⟨tip, apex, bottom, hpath, hx, hy⟩ := h
  have hzero : (0 : Binary64).isFinite = true := by decide +kernel
  exact ⟨tip, apex, bottom, hpath, hx ▸ hzero, hy⟩

theorem IsPennant.outline_eq {path : Path} (h : IsPennant path) :
    PathOf.outline path = .polygon 4 := by
  obtain ⟨tip, apex, bottom, rfl, htip⟩ := h.exists_tip
  exact outline_triangle htip apex bottom

theorem IsPennant.outline_reflected {path : Path} (h : IsPennant path) :
    PathOf.outline (path.map PointOf.reflected) = .polygon 4 := by
  obtain ⟨tip, apex, bottom, rfl, htip⟩ := h.exists_tip
  exact outline_triangle htip.reflected apex.reflected bottom.reflected

theorem outline_of_length_two {path : Path} (h : path.length = 2) :
    PathOf.outline path = .line 2 := by
  rw [PathOf.outline_of_length (by omega), h]

theorem IsBarb.length_eq {reach : Binary64} {path : Path} (h : IsBarb reach path) :
    path.length = 2 := by
  obtain ⟨y, z, rfl⟩ := h
  exact rfl

theorem IsBarb.outline_eq {reach : Binary64} {path : Path} (h : IsBarb reach path) :
    PathOf.outline path = .line 2 :=
  outline_of_length_two h.length_eq

theorem outline_reflected_of_length {path : Path} (h : path.length ≠ 4) :
    PathOf.outline (path.map PointOf.reflected) = PathOf.outline path := by
  rw [PathOf.outline_of_length h, PathOf.outline_of_length (by rwa [List.length_map]),
    List.length_map]

theorem outlines_inHemisphere {g : Glyph} (h : ∀ path ∈ g, IsPennant path ∨ path.length ≠ 4)
    (southern : Bool) : (GlyphOf.inHemisphere southern g).outlines = g.outlines := by
  cases southern with
  | false => rfl
  | true =>
    have hmap : (GlyphOf.inHemisphere true g).outlines =
        List.map (fun path : Path => PathOf.outline (path.map PointOf.reflected)) g :=
      List.map_map
    rw [hmap]
    refine List.map_congr_left fun path hpath => ?_
    rcases h path hpath with hpennant | hlength
    · rw [hpennant.outline_reflected, hpennant.outline_eq]
    · exact outline_reflected_of_length hlength

section Elements

variable {e : Elements} {long short : Binary64}

theorem Hanging.outlines_eq (hung : Hanging e long short) :
    List.map PathOf.outline hung.paths =
      List.replicate e.pennants.toNat (.polygon 4) ++
        List.replicate (e.longBarbs.toNat + if e.shortBarbs = 0 then 0 else 1) (.line 2) := by
  have hpennants : List.map PathOf.outline hung.pennants =
      List.replicate e.pennants.toNat (.polygon 4) := by
    rw [← hung.length_pennants, List.map_eq_replicate_iff]
    exact fun path hpath => (hung.isPennant path hpath).outline_eq
  have hlong : List.map PathOf.outline hung.longBarbs =
      List.replicate e.longBarbs.toNat (.line 2) := by
    rw [← hung.length_longBarbs, List.map_eq_replicate_iff]
    exact fun path hpath => (hung.isLongBarb path hpath).outline_eq
  have hshort : List.map PathOf.outline hung.shortBarbs =
      List.replicate (if e.shortBarbs = 0 then 0 else 1) (.line 2) := by
    rw [← hung.length_shortBarbs, List.map_eq_replicate_iff]
    exact fun path hpath => (hung.isShortBarb path hpath).outline_eq
  rw [Hanging.paths, List.map_append, List.map_append, hpennants, hlong, hshort, List.append_assoc,
    List.replicate_append_replicate]

theorem Hanging.isPennant_or_length (hung : Hanging e long short) :
    ∀ path ∈ hung.paths, IsPennant path ∨ path.length ≠ 4 := by
  intro path hpath
  rcases hung.mem_paths hpath with h | h | h
  · exact .inl h
  · exact .inr (by rw [h.length_eq]; decide)
  · exact .inr (by rw [h.length_eq]; decide)

theorem length_shaft {p : Profile} {stem : Path} (h : shaft p = .ok stem) : stem.length = 2 := by
  obtain ⟨tip, -, h⟩ := exists_of_bind_eq_ok h
  cases h
  rfl

theorem outlines_ofFamily {n : Int} {p : Profile} {g : Glyph} (h : ofFamily n p = .ok g)
    (hn : n ≠ 0) (southern : Bool) :
    ∃ e, Elements.ofFamily? n = some e ∧
      (GlyphOf.inHemisphere southern g).outlines =
        .line 2 :: List.replicate e.pennants.toNat (.polygon 4) ++
          List.replicate (e.longBarbs + e.shortBarbs).toNat (.line 2) := by
  obtain ⟨e, long, stem, hung, he, -, hstem, rfl⟩ := exists_hanging_of_ofFamily h hn
  have hlength := length_shaft hstem
  have hcounts : e.longBarbs.toNat + (if e.shortBarbs = 0 then 0 else 1) =
      (e.longBarbs + e.shortBarbs).toNat := by
    obtain ⟨-, hlong, hshort | hshort⟩ := Elements.ofFamily?_bounds he
    · rw [hshort, if_pos rfl, Int.add_zero, Nat.add_zero]
    · rw [hshort, if_neg (by decide)]
      omega
  refine ⟨e, he, ?_⟩
  rw [outlines_inHemisphere, GlyphOf.outlines, List.map_cons, hung.outlines_eq, hcounts,
    outline_of_length_two hlength]
  · rfl
  · exact List.forall_mem_cons.mpr ⟨.inr (by omega), hung.isPennant_or_length⟩

end Elements

theorem length_circle (radius : Binary64) : (circle radius).length = 33 := by
  simp [circle, circleParts]

theorem head?_circle (radius : Binary64) : (circle radius).head? = some (circlePoint radius 0) :=
  rfl

theorem getLast?_circle (radius : Binary64) :
    (circle radius).getLast? = some (circlePoint radius 0) :=
  List.getLast?_concat

/-- The circle is closed, but has too many points to be filled. -/
theorem exists_drawn_circle (size : Nat) (scale radius : Binary64) (pen : Pen) (southern : Bool) :
    ∃ points, (GlyphOf.drawnAt size scale pen
        (GlyphOf.inHemisphere southern [circle radius])).drawings =
          [.line points pen.colour pen.width] ∧
      points.length = 33 ∧ points.head? = points.getLast? := by
  have hdrawn (path : Path) (hpath : path.length = 33) (hclosed : path.head? = path.getLast?) :
      ∃ points, (GlyphOf.drawnAt size scale pen [path]).drawings =
          [.line points pen.colour pen.width] ∧
        points.length = 33 ∧ points.head? = points.getLast? := by
    refine ⟨path.map (·.inIcon size scale), ?_, ?_, ?_⟩
    · simp [GlyphOf.drawnAt, PathOf.drawn, hpath]
    · rw [List.length_map, hpath]
    · rw [List.head?_map, List.getLast?_map, hclosed]
  have hends : (circle radius).head? = (circle radius).getLast? := by
    rw [head?_circle, getLast?_circle]
  cases southern with
  | false => exact hdrawn _ (length_circle radius) hends
  | true =>
    refine hdrawn ((circle radius).map PointOf.reflected) ?_ ?_
    · rw [List.length_map, length_circle]
    · rw [List.head?_map, List.getLast?_map, hends]

theorem outlines_noData {p : Profile} {g : Glyph} (h : noData p = .ok g) (southern : Bool) :
    (GlyphOf.inHemisphere southern g).outlines = List.replicate 3 (.line 2) := by
  obtain ⟨tip, -, h⟩ := exists_of_bind_eq_ok h
  obtain ⟨width, -, h⟩ := exists_of_bind_eq_ok h
  obtain ⟨stem, hstem, h⟩ := exists_of_bind_eq_ok h
  cases h
  have hlength := length_shaft hstem
  rw [outlines_inHemisphere, GlyphOf.outlines, List.map_eq_replicate_iff.mpr]
  · rfl
  · simp [outline_of_length_two, hlength]
  · simp [hlength]

end Glyph

/-- Pennants are filled, and nothing else is. For every bucket of a table, on either side of the
shaft, there is one drawing for each path of its glyph, in order. A family with elements is one
line, then a polygon for each pennant, then a line for each barb; calm and the family without
elements are one line that ends where it begins; and no data is three lines. -/
theorem GlyphTable.only_pennants_filled {p : Profile} {table : GlyphTable}
    (h : GlyphTable.build p = .ok table) {b : Bucket} {g : Glyph} (hmem : (b, g) ∈ table)
    (southern : Bool) {size : Nat} (hsize : 9 ≤ size) (scale : Option Binary64) (pen : Pen) :
    let shown := GlyphOf.inHemisphere southern g
    ∃ icon, Glyph.render shown size scale pen = .ok icon ∧
      icon.drawings.map DrawingOf.points =
        List.map (List.map (·.inIcon size (scale.getD (shown.fit size)))) shown ∧
      (∀ n, b = .ofFamily n → n ≠ 0 → ∃ e, Elements.ofFamily? n = some e ∧
        icon.drawings.map DrawingOf.outline =
          .line 2 :: List.replicate e.pennants.toNat (.polygon 4) ++
            List.replicate (e.longBarbs + e.shortBarbs).toNat (.line 2)) ∧
      (b = .calm ∨ b = .ofFamily 0 →
        ∃ points, icon.drawings = [.line points pen.colour pen.width] ∧ points.length = 33 ∧
          points.head? = points.getLast?) ∧
      (b = .noData → icon.drawings.map DrawingOf.outline = List.replicate 3 (.line 2)) := by
  intro shown
  have hbuilt : Glyph.ofBucket b p = .ok g := (Draws.of_mem (draws_build h) hmem).2
  refine ⟨_, Glyph.render_eq hsize shown scale pen, GlyphOf.points_drawings .., ?_, ?_, ?_⟩
  · rintro n rfl hn
    rw [Glyph.ofBucket_ofFamily] at hbuilt
    obtain ⟨e, he, houtlines⟩ := Glyph.outlines_ofFamily hbuilt hn southern
    exact ⟨e, he, (GlyphOf.outlines_drawnAt ..).trans houtlines⟩
  · intro hcircle
    obtain ⟨radius, rfl⟩ : ∃ radius, g = [Glyph.circle radius] := by
      rcases hcircle with rfl | rfl
      · rw [Glyph.ofBucket_calm] at hbuilt
        exact Glyph.calm_eq_ok (mapError_eq_ok_iff.mp hbuilt)
      · rw [Glyph.ofBucket_ofFamily] at hbuilt
        exact Glyph.calm_eq_ok (mapError_eq_ok_iff.mp hbuilt)
    exact Glyph.exists_drawn_circle size _ radius pen southern
  · rintro rfl
    rw [Glyph.ofBucket_noData] at hbuilt
    have houtlines := Glyph.outlines_noData (mapError_eq_ok_iff.mp hbuilt) southern
    exact (GlyphOf.outlines_drawnAt ..).trans houtlines

theorem GlyphTable.only_pennants_filled_standard :
    ∃ table g icon, GlyphTable.build .standard = .ok table ∧
      (Bucket.ofFamily 65, g) ∈ table ∧ 9 ≤ 64 ∧
      Glyph.render (GlyphOf.inHemisphere true g) 64 none {} = .ok icon ∧
      icon.drawings.map DrawingOf.outline = [.line 2, .polygon 4, .line 2, .line 2] := by
  obtain ⟨s, hs⟩ := SymbolSet.exists_build_standard standardName
  have hprofile := (SymbolSet.build_eq_ok hs).2
  have htable := s.table_eq
  rw [hprofile] at htable
  have hkey : Bucket.ofFamily 65 ∈ s.table.map (·.1) := by
    rw [s.keys_table, hprofile]
    decide
  obtain ⟨⟨b, g⟩, hmem, rfl⟩ := List.mem_map.mp hkey
  have hsize : 9 ≤ 64 := by decide
  obtain ⟨icon, hicon, -, hfamily, -⟩ := only_pennants_filled htable hmem true hsize none {}
  obtain ⟨e, he, houtlines⟩ := hfamily 65 rfl (by decide)
  cases he
  exact ⟨s.table, g, icon, htable, hmem, hsize, hicon, houtlines⟩

end WindSymbols
