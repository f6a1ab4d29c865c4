import WindSymbols.Console.Markup
import WindSymbols.Glyph.Wkt
import WindSymbols.Icon.Export
import WindSymbols.Symbols.Resolution

/-!
What the commands print: tables, panels and lines of marked-up text, and the reports on locators
and on symbol sets that are made of them.
-/

namespace WindSymbols

open Markup

inductive Alignment
  | left
  | right
deriving DecidableEq

structure Column where
  header : String
  alignment : Alignment := .left
deriving DecidableEq

inductive Printed
  | table (title : String) (columns : List Column) (rows : List (List String))
  | panel (title body : String)
  | line (body : String)
deriving DecidableEq

def Printed.plain : Printed → Except MarkupFault Printed
  | table title columns rows => do
    return table (← Markup.plain title) columns (← rows.mapM (·.mapM Markup.plain))
  | panel title body => do return panel (← Markup.plain title) (← Markup.plain body)
  | line body => do return line (← Markup.plain body)

def Printed.lines : Printed → List String
  | table title columns rows =>
    title :: "\t".intercalate (columns.map Column.header) :: rows.map "\t".intercalate
  | panel title body => [title, body]
  | line body => [body]

namespace Report

/-! Locators. -/

def locatorColumns : List Column :=
  [⟨"Locator", .left⟩, ⟨"Knots", .right⟩, ⟨"Symbol", .left⟩, ⟨"Elements", .left⟩, ⟨"WKT", .left⟩]

def elementsText (e : Elements) : String :=
  integerText e.pennants ++ "P " ++ integerText e.longBarbs ++ "L " ++
    integerText e.shortBarbs ++ "S"

def failureRow (text : String) (error : SymbolError) : List String :=
  [escape text, "-", "[red]no shape[/]", "", escape error.message]

def resolvedRow (text : String) (r : Resolved) : List String :=
  [escape text, r.knots.fixedText 2, r.bucket.text ++ (if r.southern then " (S)" else ""),
    (r.elements?.map elementsText).getD "", r.glyph.wkt 2]

def locatorRow [UnitLibrary] (r : Registry) (text : String) : Except NumberFault (List String) :=
  match r.resolve (some text) with
  | .ok resolved => .ok (resolvedRow text resolved)
  | .error (.symbol error) => .ok (failureRow text error)
  | .error (.outOfRange fault) => .error fault

def locators [UnitLibrary] (r : Registry) (texts : List String) : Except NumberFault Printed := do
  return .table "Wind Barbs" locatorColumns (← texts.mapM (locatorRow r))

/-! Symbol sets. -/

def setColumns : List Column :=
  [⟨"Symbol", .left⟩, ⟨"Speed (kn)", .left⟩, ⟨"Pennants", .right⟩, ⟨"Long", .right⟩,
    ⟨"Short", .right⟩]

def calmRow : List String := ["Calm", "< " ++ calmBelow.briefText, "", "", ""]

def noDataRow : List String := ["No data", "NaN", "", "", ""]

def familyLow (family : Int) : Binary64 := Binary64.ofInt (family - shortBarbKnots) + calmBelow

def familyHigh (family : Int) : Binary64 := familyLow family + Binary64.ofInt shortBarbKnots

def rangeText (family : Int) : String :=
  (familyLow family).briefText ++ " - " ++ (familyHigh family).briefText

def familyRow (family : Int) (e : Elements) : List String :=
  [integerText family ++ " kn", rangeText family, integerText e.pennants,
    integerText e.longBarbs, integerText e.shortBarbs]

/-- The row of a bucket. The family of zero knots is never reached, and has none. -/
def bucketRow? (b : Bucket) : Option (List String) :=
  match b.kind, b.family with
  | .family, some family =>
    if family = 0 then none else (Elements.ofFamily? family).map (familyRow family)
  | _, _ => none

def invalidFrom (largest : Nat) : Binary64 := Binary64.ofNat largest + calmBelow

def invalidRow (largest : Nat) : List String :=
  ["[red]Invalid[/]", ">= " ++ (invalidFrom largest).briefText ++ ", inf", "", "", ""]

def setTable (s : SymbolSet) : Printed :=
  .table ("Symbol set: " ++ s.name) setColumns
    (calmRow :: s.table.filterMap (fun entry => bucketRow? entry.1) ++
      [noDataRow, invalidRow s.profile.largest])

def geometry (p : Profile) : Printed :=
  let d := p.dimensions
  .panel "Geometry"
    ("Shaft: " ++ d.shaft.text ++ "  Long barb: " ++ d.longBarb.text ++ "  Short barb: " ++
      p.shortBarb.briefText ++ "\nPennant base: " ++ d.pennantBase.text ++ "  Spacing: " ++
      d.spacing.text ++ "  Calm: " ++ d.calmCircle.text)

/-! Lines. -/

def errorLine (error : SymbolError) : Printed := .line ("[red]Error: " ++ error.message ++ "[/]")

def successLine (count : Nat) : Printed :=
  .line ("\n[bold green]Success![/] " ++ integerText count ++ " icons written")

def savedLine (directory : String) : Printed :=
  .line ("[dim]Files saved to: " ++ directory ++ "[/]")

end Report
end WindSymbols
