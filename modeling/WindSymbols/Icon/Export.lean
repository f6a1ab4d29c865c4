import WindSymbols.Icon.Drawing
import WindSymbols.Icon.Location
import WindSymbols.Symbols.Registry

/-!
Exporting the icons of a symbol set, one file for each bucket. All icons of a set share one scale,
so barbs line up across speeds.
-/

namespace WindSymbols

structure IconFileOf (α : Type) where
  name : String
  icon : IconOf α

abbrev IconFile := IconFileOf Binary64

def Bucket.iconName (b : Bucket) : String := "wind-" ++ b.name ++ ".png"

section

variable {α : Type} [Coordinate α]

def commonExtent (glyphs : List (GlyphOf α)) : α :=
  glyphs.foldl (fun reach g => Coordinate.larger reach g.extent) (Coordinate.ofNat 0)

def iconFiles (size : Nat) (southern : Bool) (table : List (Bucket × GlyphOf α)) :
    List (IconFileOf α) :=
  let scale := iconFit size (commonExtent (table.map (·.2)))
  table.map fun entry =>
    let glyph := if southern then entry.2.reflected else entry.2
    ⟨entry.1.iconName, glyph.drawnAt size scale {}⟩

end

inductive ExportError
  | tooSmall (error : IconTooSmall)
  | symbol (error : SymbolError)
deriving DecidableEq

structure Export where
  madeDirectory : Bool
  files : Except ExportError (List IconFile)

/-- The size is checked before the directory is made, and the set is looked up after it. -/
def Registry.exportIcons (r : Registry) (name : String) (size : Int) (southern : Bool) : Export :=
  match iconSize size with
  | .error e => ⟨false, .error (.tooSmall e)⟩
  | .ok n =>
    match r.get name with
    | .error e => ⟨true, .error (.symbol e)⟩
    | .ok s => ⟨true, .ok (iconFiles n southern s.table)⟩

def standardIconSize : Int := 64

/-- Where the icons of the map are kept, seen from the directory of the generator. -/
def assetsDirectory : Location := .ofString "../assets/wind-barbs"

def southernDirectory : Location := assetsDirectory.append "southern"

structure PlacedFile where
  directory : Location
  file : IconFile

def PlacedFile.location (p : PlacedFile) : Location := p.directory.append p.file.name

def Registry.generateAll (r : Registry) : Except ExportError (List PlacedFile) := do
  let north ← (r.exportIcons standardName standardIconSize false).files
  let south ← (r.exportIcons standardName standardIconSize true).files
  return north.map (⟨assetsDirectory, ·⟩) ++ south.map (⟨southernDirectory, ·⟩)

end WindSymbols
