import WindSymbols.Velocity.UnitTable

/-!
Looking units up. A name may carry one prefix, and an `s` at its end if at least two characters
are left without it. A name in the table is never taken apart. Units with a prefix that have become
names of their own may carry another one.
-/

namespace WindSymbols.Velocity

structure KnownUnit where
  unit : NamedUnit
  prefixes : List UnitPrefix := []
deriving DecidableEq

namespace KnownUnit

def name (u : KnownUnit) : String :=
  String.join (u.prefixes.map fun p => p.names.headD "") ++ u.unit.names.headD ""

def scaledBy (u : KnownUnit) (p : UnitPrefix) : KnownUnit := { u with prefixes := p :: u.prefixes }

end KnownUnit

/-- Units with prefixes that are names of their own. -/
abbrev OwnNames := List KnownUnit

namespace Catalogue

def named? (own : OwnNames) (name : String) : Option KnownUnit :=
  ((UnitTable.all.find? (·.names.contains name)).map (⟨·, []⟩)).or (own.find? (·.name = name))

def splits (name : List Char) : List (Option UnitPrefix × List Char) :=
  (none, name) :: UnitPrefix.all.flatMap fun p =>
    (p.names.filter (·.toList.isPrefixOf name)).map fun spelling =>
      (some p, name.drop spelling.toList.length)

/-- The unit of a name whose part after the prefix has at least `shortest` characters. -/
def singular? (own : OwnNames) (shortest : Nat) (name : List Char) : Option KnownUnit :=
  (splits name).findSome? fun (scaledBy, stem) =>
    if shortest ≤ stem.length then
      (named? own (.ofList stem)).map fun u => (scaledBy.map u.scaledBy).getD u
    else none

def find? (own : OwnNames) (name : String) : Option KnownUnit :=
  let cs := name.toList
  (singular? own 1 cs).or (if cs.getLast? = some 's' then singular? own 2 cs.dropLast else none)

/-- The names of their own that definitions give to units with prefixes. -/
def ownNames : OwnNames :=
  ["kilogram", "kilometer", "centimeter", "decimeter", "millimeter", "micrometer", "femtometer",
    "milligram", "microgram", "microliter", "micromole", "centipoise", "decitex"].filterMap
    (find? [])

end Catalogue
end WindSymbols.Velocity
