import WindSymbols.Locator.Basic
import WindSymbols.Locator.Speed
import WindSymbols.SymbolError

/-!
Reading locators of the form `windbarbs://set(speed)[unit]?key=value&...`. A text that is not one
is refused with the first piece that is missing: scheme, parentheses, set name, brackets, speed.
-/

namespace WindSymbols.Locator

open Text

def scheme : List Char := "windbarbs".toList

def afterScheme? (t : List Char) : Option (List Char) :=
  match cut? "://".toList t with
  | some (before, rest) => if lower before = scheme then some rest else none
  | none => none

/-- A set name ends at the first `(`, and a speed of at least one character at the next `)`. -/
def splitGroup? (body : List Char) : Option (List Char × List Char × List Char) :=
  match cut? ['('] body with
  | none => none
  | some (name, rest) =>
    match cut? [')'] rest with
    | none => none
    | some (speed, rest) => if speed = [] then none else some (name, speed, rest)

def bracketed? (t : List Char) : Option (List Char) :=
  match t with
  | '[' :: rest =>
    match cut? [']'] rest with
    | some (unit, []) => if trim unit = [] then none else some (trim unit)
    | _ => none
  | _ => none

def splitQuery (t : List Char) : List Char × List Char := (cut? ['?'] t).getD (t, [])

def readChars (t : List Char) : Except LocatorPart Locator := do
  let some rest := afterScheme? t | throw .scheme
  let (body, query) := splitQuery rest
  let some (name, speed, rest) := splitGroup? body | throw .parentheses
  if trim name = [] then throw .symbolSet
  let some unit := bracketed? (trim rest) | throw .brackets
  let some speed := Speed.read speed | throw .speed
  return {
    symbolSet := .ofList (lower (trim name))
    speed
    unit := .ofList unit
    params := Params.read query
    text := .ofList t }

/-- A text that is missing or blank is refused before it is read. -/
def read (text : Option String) : Except SymbolError Locator :=
  match text with
  | none => .error (.malformed .scheme none)
  | some s =>
    let t := trim s.toList
    if t = [] then .error (.malformed .scheme text)
    else (readChars t).mapError (.malformed · text)

/-- Whether a text has the scheme of locators, well-formed or not. Only a text without a character
is ruled out beforehand. -/
def hasScheme (text : Option String) : Bool :=
  match text with
  | none => false
  | some s =>
    if s = "" then false
    else (cut? "://".toList (trim s.toList)).any fun parts => lower parts.1 = scheme

def readSpeed (token : String) (text : Option String) : Except SymbolError Binary64 :=
  match Speed.read token.toList with
  | some speed => .ok speed
  | none => .error (.malformed .speed text)

end WindSymbols.Locator
