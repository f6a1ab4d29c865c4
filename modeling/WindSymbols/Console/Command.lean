import WindSymbols.Console.Arguments
import WindSymbols.Console.Report
import WindSymbols.Text.Digit
import WindSymbols.Text.DigitRun

/-!
The commands: `resolve` shows what locators stand for, `table` shows the buckets of a symbol set,
and `export` writes its icons. `run` gives the whole outcome of a command line.
-/

namespace WindSymbols

structure Outcome where
  exit : Nat
  version : String := ""
  printed : List Printed := []
  files : List PlacedFile := []

inductive CommandFault
  | markup (fault : Markup.MarkupFault)
  | number (fault : NumberFault)
  | location (fault : Location.Fault)
deriving DecidableEq

namespace Command

def succeeded : Nat := 0

def failed : Nat := 1

def misused : Nat := 2

def versionText : String := "mag-windbarbs, version 0.1.0\n"

def helpOption : CommandOption := ⟨"help", none, false⟩

def generalOptions : List CommandOption :=
  [⟨"verbose", some 'v', false⟩, ⟨"version", none, false⟩, helpOption]

def setOption : CommandOption := ⟨"set", none, true⟩

def tableOptions : List CommandOption := [setOption, helpOption]

def exportOptions : List CommandOption :=
  [⟨"output", some 'o', true⟩, ⟨"size", none, true⟩, setOption, ⟨"southern", none, false⟩,
    helpOption]

def misuse : Outcome := { exit := misused }

def printing (outcome : Outcome) (items : List Printed) : Except CommandFault Outcome := do
  return { outcome with printed := ← (items.mapM Printed.plain).mapError .markup }

def resolve [UnitLibrary] (r : Registry) (a : Arguments) : Except CommandFault Outcome := do
  if a.operands = [] then return misuse
  let table ← (Report.locators r a.operands).mapError .number
  printing { exit := succeeded } [table]

def table (r : Registry) (a : Arguments) : Except CommandFault Outcome :=
  if a.operands ≠ [] then .ok misuse
  else
    match r.get ((a.value? "set").getD standardName) with
    | .ok s => printing { exit := succeeded } [Report.setTable s, Report.geometry s.profile]
    | .error error => printing { exit := failed } [Report.errorLine error]

def readNatural? (cs : List Char) : Option Nat :=
  let (digits, rest) := Text.digitRun Text.isDecimalDigit cs
  if digits = [] ∨ rest ≠ [] ∨ Text.mostDigits < digits.length then none
  else some (Text.numberOfDigits digits)

def readInteger? (s : String) : Option Int :=
  match Text.trim s.toList with
  | '-' :: rest => (readNatural? rest).map fun n => -(n : Int)
  | '+' :: rest => (readNatural? rest).map fun n => (n : Int)
  | cs => (readNatural? cs).map fun n => (n : Int)

def iconSizeFor? (a : Arguments) : Option Int :=
  match a.value? "size" with
  | none => some standardIconSize
  | some s => (readInteger? s).bind fun n => if smallestIcon ≤ n then some n else none

def exportIcons (r : Registry) (directory : String) (a : Arguments) :
    Except CommandFault Outcome :=
  match iconSizeFor? a with
  | none => .ok misuse
  | some size =>
    if a.operands ≠ [] then .ok misuse
    else do
      let output := ((a.value? "output").map Location.ofString).getD assetsDirectory
      output.check.mapError .location
      let name := (a.value? "set").getD standardName
      match (r.exportIcons name size (a.has "southern")).files with
      | .ok files =>
        printing { exit := succeeded, files := files.map (⟨output, ·⟩) }
          [Report.successLine files.length, Report.savedLine (output.absoluteText directory)]
      | .error (.symbol error) => printing { exit := failed } [Report.errorLine error]
      | .error (.tooSmall _) => .ok { exit := failed }

/-- A command with its options. Asking for help is all that is done then. -/
def withOptions (known : List CommandOption) (args : List String)
    (body : Arguments → Except CommandFault Outcome) : Except CommandFault Outcome :=
  match Arguments.read known false args with
  | none => .ok misuse
  | some a => if a.has "help" then .ok { exit := succeeded } else body a

/-- The outcome of the option that ends the program; of several the first one counts. -/
def ending? (a : Arguments) : Option Outcome :=
  (a.options.find? fun o => o.1 = "version" || o.1 = "help").map fun o =>
    { exit := succeeded, version := if o.1 = "version" then versionText else "" }

/-- A command that is not known. If its name looks like an option, the options that end the program
still count in what follows `--`. -/
def unknown (args : List String) : Outcome :=
  if args.head?.any Arguments.looksLikeOption then
    ((Arguments.read generalOptions true args).bind ending?).getD misuse
  else misuse

def runNamed [UnitLibrary] (r : Registry) (directory name : String) (args : List String) :
    Except CommandFault Outcome :=
  match name with
  | "resolve" => withOptions [helpOption] args (resolve r)
  | "table" => withOptions tableOptions args (table r)
  | "export" => withOptions exportOptions args (exportIcons r directory)
  | _ => .ok (unknown (name :: args))

def run [UnitLibrary] (r : Registry) (directory : String) (args : List String) :
    Except CommandFault Outcome :=
  match Arguments.read generalOptions true args with
  | none => .ok misuse
  | some a =>
    match ending? a, a.operands with
    | some outcome, _ => .ok outcome
    | none, [] => .ok misuse
    | none, name :: args => runNamed r directory name args

end Command
end WindSymbols
