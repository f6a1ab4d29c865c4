import WindSymbols.Console.Command
import WindSymbols.Proofs.Console.Escape
import WindSymbols.Proofs.Failure
import WindSymbols.Proofs.Symbols.Shape
import WindSymbols.Proofs.Symbols.Table
import WindSymbols.Proofs.Wind.Order

/-! The rows of locators. Nothing in a row can be at fault, since what a locator gives to it is
escaped and the rest is made of numbers and names (`plain_row`). So a list of locators is shown row
by row, and no row depends on the others (`Command.resolve_row_by_row`). -/

namespace WindSymbols

open Markup

/-! Well-known text is not marked up. -/

namespace Wkt

theorem all_isLiteralChar_fixed (d : Decimal) (decimals : Nat) :
    (fixed d decimals).all Speed.isLiteralChar = true :=
  Layout.all_isLiteralChar_trimFraction (Layout.all_isLiteralChar_fixed ..)

theorem all_isLiteralChar_decimal (d : Decimal) (decimals : Nat) :
    (decimal d decimals).all Speed.isLiteralChar = true := by
  unfold decimal
  split
  · exact all_isLiteralChar_fixed ..
  · unfold scientific
    rw [List.all_append, all_isLiteralChar_fixed, Layout.all_isLiteralChar_exponent, Bool.and_self]

theorem all_isLiteralChar_number (decimals : Nat) (x : Binary64) :
    (number decimals x).all Speed.isLiteralChar = true := by
  have hsign : ∀ s, (Layout.sign s).all Speed.isLiteralChar = true := by decide
  cases x with
  | nan => rfl
  | infinite s =>
    rw [number, List.all_append, hsign, Bool.true_and]
    decide
  | finite s m =>
    rw [number]
    split
    · decide
    · rw [List.all_append, hsign, all_isLiteralChar_decimal, Bool.and_self]

theorem unmarked_point (decimals : Nat) (p : Point) : Unmarked (point decimals p) := by
  have hnumber : ∀ x, (number decimals x).all isUnmarked = true := fun x =>
    List.all_eq_true.mpr fun c hc =>
      isUnmarked_of_isLiteralChar (List.all_eq_true.mp (all_isLiteralChar_number decimals x) c hc)
  unfold Unmarked point
  rw [String.toList_ofList, List.all_append, List.all_cons, hnumber, hnumber]
  decide

theorem unmarked_path (decimals : Nat) (p : Path) : Unmarked (path decimals p) := by
  have hpoints : ∀ text ∈ p.map (point decimals), Unmarked text := by
    intro text htext
    obtain ⟨q, -, rfl⟩ := List.mem_map.mp htext
    exact unmarked_point decimals q
  unfold path
  exact (Unmarked.append (by decide) (Unmarked.intercalate (by decide) hpoints)).append (by decide)

end Wkt

theorem Glyph.unmarked_wkt (g : Glyph) (precision : Int) : Unmarked (g.wkt precision) := by
  have hpaths : ∀ text ∈ List.map (Wkt.path (Wkt.decimalsFor precision)) g, Unmarked text := by
    intro text htext
    obtain ⟨p, -, rfl⟩ := List.mem_map.mp htext
    exact Wkt.unmarked_path _ p
  unfold wkt
  split
  · decide
  · exact (Unmarked.append (by decide) (Unmarked.intercalate (by decide) hpaths)).append (by decide)

theorem Bucket.unmarked_text (b : Bucket) : Unmarked b.text := by
  have htitle : ∀ k : BucketKind, Unmarked k.title := by
    intro k
    cases k <;> decide
  have hfamily : Unmarked b.familyText := by
    unfold familyText
    cases b.family with
    | none => decide
    | some family => exact (numeric_integerText family).unmarked
  unfold text
  split
  · exact (Unmarked.append (by decide) hfamily).append (by decide)
  · exact htitle b.kind

namespace Report

theorem unmarked_elementsText (e : Elements) : Unmarked (elementsText e) := by
  have hcount : ∀ n : Int, Unmarked (integerText n) := fun n => (numeric_integerText n).unmarked
  unfold elementsText
  exact (((((hcount _).append (by decide)).append (hcount _)).append (by decide)).append
    (hcount _)).append (by decide)

/-! Rows. -/

def symbolCell (res : Resolved) : String :=
  res.bucket.text ++ if res.southern then " (S)" else ""

def elementsCell (res : Resolved) : String := (res.elements?.map elementsText).getD ""

def shownRow [UnitLibrary] (r : Registry) (text : String) : List String :=
  match r.resolve (some text) with
  | .ok res =>
    [escapedShown text, res.knots.fixedText 2, symbolCell res, elementsCell res, res.glyph.wkt 2]
  | .error (.symbol e) => [escapedShown text, "-", "no shape", "", escapedShown e.message]
  | .error (.outOfRange _) => []

theorem unmarked_symbolCell (res : Resolved) : Unmarked (symbolCell res) := by
  unfold symbolCell
  exact res.bucket.unmarked_text.append (by split <;> decide)

theorem unmarked_elementsCell (res : Resolved) : Unmarked (elementsCell res) := by
  unfold elementsCell
  cases res.elements? with
  | none => decide
  | some e => exact unmarked_elementsText e

theorem plain_resolvedRow (text : String) (res : Resolved) :
    (resolvedRow text res).mapM plain =
      .ok [escapedShown text, res.knots.fixedText 2, symbolCell res, elementsCell res,
        res.glyph.wkt 2] := by
  have hrow : resolvedRow text res =
      [escape text, res.knots.fixedText 2, symbolCell res, elementsCell res, res.glyph.wkt 2] :=
    rfl
  rw [hrow]
  simp only [List.mapM_cons, List.mapM_nil, plain_escape,
    plain_of_unmarked (numeric_fixedText _ _).unmarked, plain_of_unmarked (unmarked_symbolCell res),
    plain_of_unmarked (unmarked_elementsCell res), plain_of_unmarked (Glyph.unmarked_wkt _ _)]
  rfl

theorem plain_failureRow (text : String) (e : SymbolError) :
    (failureRow text e).mapM plain =
      .ok [escapedShown text, "-", "no shape", "", escapedShown e.message] := by
  have hnews : plain "[red]no shape[/]" = .ok "no shape" := by decide +kernel
  have hdash : plain "-" = .ok "-" := plain_of_unmarked (by decide)
  have hblank : plain "" = .ok "" := plain_of_unmarked (by decide)
  simp only [failureRow, List.mapM_cons, List.mapM_nil, plain_escape, hnews, hdash, hblank]
  rfl

/-- Every locator has a row, and it can be shown. -/
theorem plain_row [UnitLibrary] (r : Registry) (text : String) :
    ∃ row, locatorRow r text = .ok row ∧ row.mapM plain = .ok (shownRow r text) := by
  unfold locatorRow shownRow
  obtain ⟨res, hok⟩ | ⟨e, -, herror⟩ := r.resolve_cases (some text)
  · rw [hok]
    exact ⟨_, rfl, plain_resolvedRow text res⟩
  · rw [herror]
    exact ⟨_, rfl, plain_failureRow text e⟩

theorem plain_rowsOf [UnitLibrary] (r : Registry) (texts : List String) :
    ∃ rows, texts.mapM (locatorRow r) = .ok rows ∧
      rows.mapM (·.mapM plain) = .ok (texts.map (shownRow r)) := by
  induction texts with
  | nil => exact ⟨[], rfl, rfl⟩
  | cons text rest ih =>
    obtain ⟨row, hrow, hshown⟩ := plain_row r text
    obtain ⟨rows, hrows, hrest⟩ := ih
    refine ⟨row :: rows, ?_, ?_⟩
    · rw [List.mapM_cons, hrow, hrows]
      rfl
    · rw [List.mapM_cons, hshown, hrest]
      rfl

end Report

namespace Command

theorem resolve_eq [UnitLibrary] (r : Registry) {a : Arguments} (ha : a.operands ≠ []) :
    resolve r a = .ok { exit := succeeded, printed :=
      [.table "Wind Barbs" Report.locatorColumns (a.operands.map (Report.shownRow r))] } := by
  obtain ⟨rows, hrows, hshown⟩ := Report.plain_rowsOf r a.operands
  have htitle : plain "Wind Barbs" = .ok "Wind Barbs" := plain_of_unmarked (by decide)
  have hreport : Report.locators r a.operands =
      .ok (.table "Wind Barbs" Report.locatorColumns rows) := by
    rw [Report.locators, hrows]
    rfl
  have hplain : (Printed.table "Wind Barbs" Report.locatorColumns rows).plain =
      .ok (.table "Wind Barbs" Report.locatorColumns (a.operands.map (Report.shownRow r))) := by
    rw [Printed.plain, htitle, hshown]
    rfl
  rw [resolve, if_neg ha, hreport]
  simp only [Except.mapError, ok_bind, printing, List.mapM_cons, List.mapM_nil, hplain]
  rfl

end Command
end WindSymbols
