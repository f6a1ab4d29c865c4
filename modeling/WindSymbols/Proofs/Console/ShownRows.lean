import WindSymbols.Proofs.Console.SpeedColumn
import WindSymbols.Proofs.Symbols.Table

/-! The table of a symbol set as it is shown. There is a row for calm, one for each family from five
knots on, and one each for no data and for invalid speeds (`shownRows`, `plain_setTable`). A row
gives a bucket, the range of its speeds and its elements. The markup of the rows and of the lengths
below them is never at fault, so that it is the title that decides whether the table is shown. -/

namespace WindSymbols

namespace Report

def symbolText (b : Bucket) : String :=
  match b.kind, b.family with
  | .calm, _ => "Calm"
  | .noData, _ => "No data"
  | .family, some family => integerText family ++ " kn"
  | _, _ => "Invalid"

def elementTexts (b : Bucket) : List String :=
  match b.kind, b.family with
  | .family, some family =>
    match ElementCounts.ofFamily (.whole family) with
    | .ok c => [c.pennants.text, c.longBarbs.text, c.shortBarbs.text]
    | .error _ => ["", "", ""]
  | _, _ => ["", "", ""]

def rowOf (b : Bucket) (speeds : String) : List String := symbolText b :: speeds :: elementTexts b

def familyAt (k : Nat) : Int := 5 * ((k : Int) + 1)

def shownFamily (k : Nat) : List String := rowOf (.ofFamily (familyAt k)) (rangeText (familyAt k))

def shownRows (largest : Nat) : List (List String) :=
  rowOf .calm calmText :: (List.range (largest / 5)).map shownFamily ++
    [rowOf .noData "NaN", rowOf .invalid (invalidText largest)]

theorem bucketRow?_familyAt (k : Nat) :
    bucketRow? (.ofFamily (familyAt k)) = some (shownFamily k) := by
  have hpos : familyAt k ≠ 0 := by
    unfold familyAt
    omega
  have hfamily : ¬ (familyAt k < 0 ∨ familyAt k % shortBarbKnots ≠ 0) := by
    unfold familyAt shortBarbKnots
    omega
  obtain ⟨e, he⟩ : ∃ e, Elements.ofFamily? (familyAt k) = some e := by
    rw [Elements.ofFamily?, if_neg hfamily]
    exact ⟨_, rfl⟩
  simp only [bucketRow?, Bucket.ofFamily, if_neg hpos, he, Option.map_some, shownFamily, rowOf,
    symbolText, elementTexts, ElementCounts.ofFamily_whole he, ElementCounts.ofElements,
    Scalar.text, familyRow]

theorem filterMap_families (n : Nat) :
    (List.range (n + 1)).filterMap (fun i : Nat => bucketRow? (.ofFamily (5 * (i : Int)))) =
      (List.range n).map shownFamily := by
  rw [List.range_succ_eq_map, List.filterMap_cons_none rfl, List.filterMap_map,
    ← List.filterMap_eq_map]
  congr 1
  funext k
  exact bucketRow?_familyAt k

theorem filterMap_bucketRow? (s : SymbolSet) :
    s.table.filterMap (fun entry => bucketRow? entry.1) =
      (List.range (s.profile.largest / 5)).map shownFamily := by
  have hsentinels : [Bucket.calm, .noData].filterMap bucketRow? = [] := rfl
  calc
    s.table.filterMap (fun entry => bucketRow? entry.1) =
        (s.table.map (·.1)).filterMap bucketRow? := by
      rw [List.filterMap_map]
      rfl
    _ = (List.range (s.profile.largest / 5 + 1)).filterMap
          (fun i : Nat => bucketRow? (.ofFamily (5 * (i : Int)))) := by
      rw [s.keys_table_eq, List.filterMap_append, hsentinels, List.append_nil, List.filterMap_map]
      rfl
    _ = (List.range (s.profile.largest / 5)).map shownFamily := filterMap_families _

/-! Nothing in the cells is marked up but the symbol of invalid speeds. -/

theorem unmarked_elementTexts (b : Bucket) : ∀ cell ∈ elementTexts b, Markup.Unmarked cell := by
  have hblank : ∀ cell ∈ ["", "", ""], Markup.Unmarked cell := by decide
  unfold elementTexts
  split
  · split
    · intro cell hcell
      simp only [List.mem_cons, List.not_mem_nil, or_false] at hcell
      rcases hcell with rfl | rfl | rfl <;> exact (numeric_text _).unmarked
    · exact hblank
  · exact hblank

theorem unmarked_symbolText (b : Bucket) : Markup.Unmarked (symbolText b) := by
  unfold symbolText
  split
  · decide
  · decide
  · exact (numeric_integerText _).unmarked.append (by decide)
  · decide

theorem unmarked_rowOf {b : Bucket} {speeds : String} (h : Markup.Unmarked speeds) :
    ∀ cell ∈ rowOf b speeds, Markup.Unmarked cell := by
  intro cell hcell
  rcases List.mem_cons.mp hcell with rfl | hcell
  · exact unmarked_symbolText b
  rcases List.mem_cons.mp hcell with rfl | hcell
  · exact h
  · exact unmarked_elementTexts b cell hcell

theorem plain_cells {row : List String} (h : ∀ cell ∈ row, Markup.Unmarked cell) :
    row.mapM Markup.plain = .ok row :=
  mapM_eq_self fun cell hcell => Markup.plain_of_unmarked (h cell hcell)

theorem unmarked_briefText (x : Binary64) : Markup.Unmarked x.briefText :=
  (numeric_briefText x).unmarked

theorem unmarked_rangeText (family : Int) : Markup.Unmarked (rangeText family) :=
  ((unmarked_briefText _).append (by decide)).append (unmarked_briefText _)

theorem unmarked_calmText : Markup.Unmarked calmText :=
  Markup.Unmarked.append (by decide) (unmarked_briefText _)

theorem unmarked_invalidText (largest : Nat) : Markup.Unmarked (invalidText largest) :=
  (Markup.Unmarked.append (by decide) (unmarked_briefText _)).append (by decide)

theorem plain_invalidRow (largest : Nat) :
    (invalidRow largest).mapM Markup.plain = .ok (rowOf .invalid (invalidText largest)) := by
  have hrow : invalidRow largest = ["[red]Invalid[/]", invalidText largest, "", "", ""] := rfl
  have hsymbol : Markup.plain "[red]Invalid[/]" = .ok "Invalid" := by decide +kernel
  have hblank : Markup.plain "" = .ok "" := Markup.plain_of_unmarked (by decide)
  rw [hrow]
  simp only [List.mapM_cons, List.mapM_nil, hsymbol, hblank,
    Markup.plain_of_unmarked (unmarked_invalidText largest)]
  rfl

theorem plain_rows (s : SymbolSet) :
    (calmRow :: s.table.filterMap (fun entry => bucketRow? entry.1) ++
      [noDataRow, invalidRow s.profile.largest]).mapM (·.mapM Markup.plain) =
        .ok (shownRows s.profile.largest) := by
  have hcalm : calmRow.mapM Markup.plain = .ok calmRow :=
    plain_cells (unmarked_rowOf (b := .calm) unmarked_calmText)
  have hnoData : noDataRow.mapM Markup.plain = .ok noDataRow := plain_cells (by decide)
  have hfamilies : ((List.range (s.profile.largest / 5)).map shownFamily).mapM
      (·.mapM Markup.plain) = .ok ((List.range (s.profile.largest / 5)).map shownFamily) := by
    refine mapM_eq_self fun row hrow => ?_
    obtain ⟨k, -, rfl⟩ := List.mem_map.mp hrow
    exact plain_cells (unmarked_rowOf (unmarked_rangeText _))
  rw [filterMap_bucketRow?, List.mapM_append, List.mapM_cons, hcalm, hfamilies, List.mapM_cons,
    List.mapM_cons, List.mapM_nil, hnoData, plain_invalidRow]
  rfl

/-- A title that can be shown is shown over one row for each bucket. -/
theorem plain_setTable {s : SymbolSet} {title : String}
    (h : Markup.plain ("Symbol set: " ++ s.name) = .ok title) :
    (setTable s).plain = .ok (.table title setColumns (shownRows s.profile.largest)) := by
  rw [setTable, Printed.plain, h, plain_rows]
  rfl

theorem exists_plain_panel {title body : String} (htitle : '[' ∉ title.toList)
    (hbody : '[' ∉ body.toList) : ∃ panel, (Printed.panel title body).plain = .ok panel := by
  obtain ⟨shownTitle, htitle⟩ := Markup.exists_plain htitle
  obtain ⟨shownBody, hbody⟩ := Markup.exists_plain hbody
  rw [Printed.plain, htitle, hbody]
  exact ⟨_, rfl⟩

theorem exists_plain_geometry (p : Profile) : ∃ panel, (geometry p).plain = .ok panel := by
  have htext : ∀ a : Scalar, '[' ∉ a.text.toList := fun a => (numeric_text a).not_mem (by decide)
  have hbrief : ∀ x : Binary64, '[' ∉ x.briefText.toList := fun x =>
    (numeric_briefText x).not_mem (by decide)
  exact exists_plain_panel (by decide) (by simp [String.toList_append, htext, hbrief])

end Report
end WindSymbols
