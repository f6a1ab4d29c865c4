import WindSymbols.Number.Decimal
import WindSymbols.Number.Scalar

/-!
Named units and prefixes. Case matters in names.
-/

namespace WindSymbols.Velocity

inductive Meaning
  /-- The base unit of a dimension; a bare number has the dimension without a name. -/
  | base (dimension : String)
  | derived (expression : String)
  | level
deriving DecidableEq

/-- A unit with all its names, the first of which counts as its name. -/
structure NamedUnit where
  names : List String
  meaning : Meaning
deriving DecidableEq

structure UnitPrefix where
  names : List String
  size : Scalar
deriving DecidableEq

namespace UnitPrefix

def decimal (names : List String) (power : Int) (coefficient : Nat) : UnitPrefix :=
  ⟨names, .real (Decimal.toBinary64 false ⟨coefficient, power⟩)⟩

def binary (names : List String) (power : Nat) : UnitPrefix := ⟨names, .whole (twoTo power)⟩

def all : List UnitPrefix :=
  [decimal ["quecto", "q"] (-30) 1, decimal ["ronto", "r"] (-27) 1,
    decimal ["yocto", "y"] (-24) 1, decimal ["zepto", "z"] (-21) 1,
    decimal ["atto", "a"] (-18) 1, decimal ["femto", "f"] (-15) 1, decimal ["pico", "p"] (-12) 1,
    decimal ["nano", "n"] (-9) 1, decimal ["micro", "µ", "μ", "u", "mu", "mc"] (-6) 1,
    decimal ["milli", "m"] (-3) 1, decimal ["centi", "c"] (-2) 1, decimal ["deci", "d"] (-1) 1,
    decimal ["deca", "da", "deka"] 1 1, decimal ["hecto", "h"] 2 1, decimal ["kilo", "k"] 3 1,
    decimal ["mega", "M"] 6 1, decimal ["giga", "G"] 9 1, decimal ["tera", "T"] 12 1,
    decimal ["peta", "P"] 15 1, decimal ["exa", "E"] 18 1, decimal ["zetta", "Z"] 21 1,
    decimal ["yotta", "Y"] 24 1, decimal ["ronna", "R"] 27 1, decimal ["quetta", "Q"] 30 1,
    binary ["kibi", "Ki"] 10, binary ["mebi", "Mi"] 20, binary ["gibi", "Gi"] 30,
    binary ["tebi", "Ti"] 40, binary ["pebi", "Pi"] 50, binary ["exbi", "Ei"] 60,
    binary ["zebi", "Zi"] 70, binary ["yobi", "Yi"] 80, decimal ["semi", "demi"] (-1) 5,
    decimal ["sesqui"] (-1) 15]

end UnitPrefix
end WindSymbols.Velocity
