import WindSymbols.Console.Command

/-!
The command line program. It prints what a command reports and returns its exit code; drawing the
icons of an export is left to the program's image writer.
-/

open WindSymbols

def main (args : List String) : IO UInt32 := do
  let directory := (← IO.currentDir).toString
  match Command.run Registry.initial directory args with
  | .error _ => return 1
  | .ok outcome =>
    IO.print outcome.version
    for item in outcome.printed do
      for line in item.lines do
        IO.println line
    return outcome.exit.toUInt32
