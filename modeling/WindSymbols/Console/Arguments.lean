import WindSymbols.Text.Word

/-!
Command line arguments: options with two dashes and a name or one dash and a letter, and the
arguments between or after them. A value follows its option after an equals sign, directly after
the letter, or as the next argument; `--` ends the options.
-/

namespace WindSymbols

structure CommandOption where
  name : String
  letter : Option Char := none
  takesValue : Bool := false

structure Arguments where
  options : List (String × String)
  operands : List String

namespace Arguments

def value? (a : Arguments) (name : String) : Option String := a.options.reverse.lookup name

def has (a : Arguments) (name : String) : Bool := (a.value? name).isSome

def isOption (arg : String) : Bool := arg.startsWith "-" && arg.length > 1

def looksLikeOption (arg : String) : Bool :=
  arg.toList.head?.any fun c => !Text.isWordChar c || c = '_'

structure Found where
  options : List (String × String)
  waiting : Option String

def readLetters (known : List CommandOption) : List Char → Option Found
  | [] => some ⟨[], none⟩
  | c :: rest =>
    match known.find? (·.letter = some c) with
    | none => none
    | some o =>
      if o.takesValue then
        if rest = [] then some ⟨[], some o.name⟩ else some ⟨[(o.name, .ofList rest)], none⟩
      else
        (readLetters known rest).map fun found => ⟨(o.name, "") :: found.options, found.waiting⟩

def readOption (known : List CommandOption) (arg : String) : Option Found :=
  let cs := arg.toList
  let (name, value) :=
    (String.ofList (cs.takeWhile (· ≠ '=')),
      if cs.contains '=' then some (String.ofList ((cs.dropWhile (· ≠ '=')).drop 1)) else none)
  match known.find? (fun o => "--" ++ o.name = name) with
  | some o =>
    match o.takesValue, value with
    | true, some v => some ⟨[(o.name, v)], none⟩
    | true, none => some ⟨[], some o.name⟩
    | false, some _ => none
    | false, none => some ⟨[(o.name, "")], none⟩
  | none => if arg.startsWith "--" then none else readLetters known (cs.drop 1)

def withOptions (options : List (String × String)) (a : Arguments) : Arguments :=
  { a with options := options ++ a.options }

def withOperand (operand : String) (a : Arguments) : Arguments :=
  { a with operands := operand :: a.operands }

/-- Reads all arguments, or those before the first operand if options must come first. -/
def read (known : List CommandOption) (optionsFirst : Bool) : List String → Option Arguments
  | [] => some ⟨[], []⟩
  | arg :: rest =>
    if arg = "--" then some ⟨[], rest⟩
    else if isOption arg then
      match readOption known arg with
      | none => none
      | some ⟨options, none⟩ => (read known optionsFirst rest).map (withOptions options)
      | some ⟨options, some name⟩ =>
        match rest with
        | [] => none
        | value :: rest =>
          (read known optionsFirst rest).map (withOptions (options ++ [(name, value)]))
    else if optionsFirst then some ⟨[], arg :: rest⟩
    else (read known optionsFirst rest).map (withOperand arg)

end Arguments
end WindSymbols
