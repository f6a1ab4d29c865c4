import WindSymbols.Console.LiteralToken
import WindSymbols.Text.Blank

/-!
The values that a tag may carry: numbers, quoted text, `None`, `True`, `False`, three points, and
tuples, sets and dictionaries of values. A name may stand before a tuple, or alone. The main
definition is `isParameter`, which says whether a text is such a value.
-/

namespace WindSymbols.Markup.Literal

open Text

abbrev Reading := Option (Kind × List Token)

def joined? (kind : Kind) : List Token → Reading
  | .value other :: rest =>
    if other = .text ∨ other = .bytes then
      if other = kind then joined? kind rest else none
    else some (kind, .value other :: rest)
  | rest => some (kind, rest)

def signed? : Kind → Option Kind
  | .real => some .signedReal
  | .imaginary => some .number
  | _ => none

def sum? : Kind → Kind → Option Kind
  | .real, .imaginary => some .number
  | .signedReal, .imaginary => some .number
  | _, _ => none

def tupleOf (kinds : List Kind) : Kind := if kinds.contains .changeable then .changeable else .tuple

def value? : Kind → Option Kind
  | .setName => none
  | kind => some kind

def element? (kind : Kind) : Option Kind := if kind = .changeable then none else value? kind

mutual

def read? : Nat → List Token → Reading
  | 0, _ => none
  | fuel + 1, tokens => do
    let (left, rest) ← operand? fuel tokens
    match rest with
    | .sign :: rest =>
      let (right, rest) ← operand? fuel rest
      return (← sum? left right, rest)
    | _ => return (left, rest)

def operand? : Nat → List Token → Reading
  | 0, _ => none
  | fuel + 1, tokens =>
    match tokens with
    | .sign :: rest => do
      let (kind, rest) ← operand? fuel rest
      return (← signed? kind, rest)
    | _ => do
      match ← simple? fuel tokens with
      | (.setName, .opening false :: .closing false :: rest) => return (.changeable, rest)
      | read => return read

def simple? : Nat → List Token → Reading
  | 0, _ => none
  | fuel + 1, tokens =>
    match tokens with
    | .value kind :: rest =>
      if kind = .text ∨ kind = .bytes then joined? kind rest else some (kind, rest)
    | .opening false :: rest => group? fuel rest
    | .opening true :: rest => braces? fuel rest
    | _ => none

def group? : Nat → List Token → Reading
  | 0, _ => none
  | fuel + 1, tokens =>
    match tokens with
    | .closing false :: rest => some (.tuple, rest)
    | _ => do
      let (kind, rest) ← read? fuel tokens
      match rest with
      | .closing false :: rest => return (kind, rest)
      | .comma :: rest =>
        let kind ← value? kind
        let (kinds, rest) ← elements? fuel false rest
        return (tupleOf (kind :: kinds), rest)
      | _ => none

def elements? : Nat → Bool → List Token → Option (List Kind × List Token)
  | 0, _, _ => none
  | fuel + 1, brace, tokens =>
    if tokens.head? = some (.closing brace) then some ([], tokens.drop 1)
    else do
      let (kind, rest) ← read? fuel tokens
      let kind ← value? kind
      match rest with
      | .comma :: rest =>
        let (kinds, rest) ← elements? fuel brace rest
        return (kind :: kinds, rest)
      | .closing other :: rest => if other = brace then return ([kind], rest) else none
      | _ => none

def braces? : Nat → List Token → Reading
  | 0, _ => none
  | fuel + 1, tokens =>
    match tokens with
    | .closing true :: rest => some (.changeable, rest)
    | _ => do
      let (kind, rest) ← read? fuel tokens
      let _ ← element? kind
      match rest with
      | .colon :: _ => (entries? fuel tokens).map (.changeable, ·)
      | .closing true :: rest => return (.changeable, rest)
      | .comma :: rest =>
        let (kinds, rest) ← elements? fuel true rest
        if kinds.contains .changeable then none else return (.changeable, rest)
      | _ => none

def entries? : Nat → List Token → Option (List Token)
  | 0, _ => none
  | fuel + 1, tokens =>
    match tokens with
    | .closing true :: rest => some rest
    | _ => do
      let (key, rest) ← read? fuel tokens
      let _ ← element? key
      match rest with
      | .colon :: rest =>
        let (kind, rest) ← read? fuel rest
        let _ ← value? kind
        match rest with
        | .comma :: rest => entries? fuel rest
        | .closing true :: rest => return rest
        | _ => none
      | _ => none

end

/-- Whether tokens are a value, or several with commas between them. Every step of the readers
takes a token or goes one level down, and there are five levels. -/
def isValue (tokens : List Token) : Bool :=
  let fuel := 5 * tokens.length + 10
  match read? fuel tokens with
  | some (kind, []) => (value? kind).isSome
  | some (kind, .comma :: rest) =>
    (value? kind).isSome && (elements? fuel false (rest ++ [.closing false])).any (·.2 = [])
  | _ => false

def isLiteral (cs : List Char) : Bool := (tokens? cs).any isValue

def isParameter (cs : List Char) : Bool :=
  let t := trim cs
  match t.dropWhile fun c => isWordChar c || c = '.' with
  | [] => true
  | '(' :: rest =>
    if rest.getLast? = some ')' && !rest.contains '\n' then isLiteral ('(' :: rest) else isLiteral t
  | _ => isLiteral t

end WindSymbols.Markup.Literal
