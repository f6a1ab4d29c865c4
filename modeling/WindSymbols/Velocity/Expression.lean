import WindSymbols.Velocity.Token

/-!
Unit expressions. A power binds tighter than a sign in front, that tighter than products and
quotients, and these tighter than sums; factors that stand side by side are multiplied. A group in
parentheses belongs to the operand before it, even to an exponent.
-/

namespace WindSymbols.Velocity

inductive Expression
  | number (value : Scalar)
  | name (letters : String)
  | signed (s : Sign) (of : Expression)
  | joined (s : Sign) (left right : Expression)
deriving DecidableEq

def Sign.strength : Sign → Int
  | plus | minus => 0
  | times | per | perWhole => 1
  | power => 3

def frontStrength : Int := 2

def groupStrength : Int := -1

/-- Whether a sign waits for an operand of a stronger one to end. Powers of powers are read from
the right. -/
def Sign.endsOperand (s : Sign) (strength : Int) : Bool := s ≠ .power && s.strength ≤ strength

namespace Expression

def ofToken? : Token → Option Expression
  | .number value => some (number value)
  | .name letters => some (name letters)
  | _ => none

def times? (left : Option Expression) (right : Expression) : Expression :=
  match left with
  | some left => joined .times left right
  | none => right

def deepestNesting : Nat := 980

/-- The operand of a sign of some strength, with the tokens after it. What has been read of it so
far is given. Every call takes a token, or starts an operand with one; an operand or group within
another takes one of the levels that are left. -/
def readFrom : Nat → Nat → Int → Option Expression → List Token →
    Option (Expression × List Token)
  | 0, _, _, _, _ => none
  | _ + 1, _, _, left, [] => left.map (·, [])
  | fuel + 1, levels, strength, left, token :: rest =>
    let within (strength : Int) (tokens : List Token) :=
      if levels = 0 then none else readFrom fuel (levels - 1) strength none tokens
    match token, left with
    | .closing, left => left.map (·, .closing :: rest)
    | .opening, left =>
      match within groupStrength rest with
      | some (inner, .closing :: rest) =>
        readFrom fuel levels strength (some (times? left inner)) rest
      | _ => none
    | .sign s, none => do
      let (operand, rest) ← within frontStrength rest
      readFrom fuel levels strength (some (signed s operand)) rest
    | .sign s, some left =>
      if s.endsOperand strength then some (left, .sign s :: rest)
      else do
        let (right, rest) ← within s.strength rest
        readFrom fuel levels strength (some (joined s left right)) rest
    | token, none => do readFrom fuel levels strength (some (← ofToken? token)) rest
    | token, some left =>
      if Sign.times.endsOperand strength then some (left, token :: rest)
      else do
        let (right, rest) ← within Sign.times.strength (token :: rest)
        readFrom fuel levels strength (some (joined .times left right)) rest

def height : Expression → Nat
  | number _ | name _ => 0
  | signed _ of => of.height + 1
  | joined _ left right => max left.height right.height + 1

def ofTokens? (tokens : List Token) : Option Expression :=
  match readFrom (2 * tokens.length + 1) deepestNesting groupStrength none tokens with
  | some (e, []) => if e.height ≤ deepestNesting then some e else none
  | _ => none

def read? (cs : List Char) : Option Expression := do ofTokens? (← Token.scan cs)

end Expression
end WindSymbols.Velocity
