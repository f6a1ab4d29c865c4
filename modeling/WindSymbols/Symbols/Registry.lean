import WindSymbols.Symbols.SymbolSet
import WindSymbols.Text.Name

/-!
The registry of symbol sets. Names are compared without regard to case and to blanks around them.
The set `default` is always there and is never replaced.
-/

namespace WindSymbols

open Text

inductive RegistryError
  | blankName
  | taken (name : String)
  | unbuildable (error : GlyphError)
deriving DecidableEq

def RegistryError.message? : RegistryError → Option String
  | blankName => some "Symbol set name cannot be empty"
  | taken name => some ("Symbol set already registered: " ++ quoted name)
  | unbuildable error => error.message?

def standardName : String := "default"

/-- Sets in the order in which their names were first registered. -/
abbrev Registry := List SymbolSet

namespace Registry

def find? (r : Registry) (name : String) : Option SymbolSet :=
  List.find? (fun s => s.name = nameKey name) r

def get (r : Registry) (name : String) : Except SymbolError SymbolSet :=
  match r.find? name with
  | some s => .ok s
  | none => .error (.unknownSet name)

def publish (r : Registry) (s : SymbolSet) : Registry :=
  if r.any (·.name = s.name) then List.map (fun t => if t.name = s.name then s else t) r
  else r ++ [s]

/-- A set built from a profile and published under a name. The glyphs are built before it is
known whether the name is free. -/
def register (r : Registry) (name : String) (p : Profile) (replace : Bool) :
    Except RegistryError (SymbolSet × Registry) := do
  let key := nameKey name
  if key = "" then throw .blankName
  let s ← (SymbolSet.build key p).mapError .unbuildable
  if r.any (·.name = key) && (!replace || key = standardName) then throw (.taken key)
  return (s, r.publish s)

def initial : Registry :=
  match SymbolSet.build standardName .standard with
  | .ok s => [s]
  | .error _ => []

def names (r : Registry) : List String := (r.map SymbolSet.name).mergeSort (· ≤ ·)

end Registry
end WindSymbols
