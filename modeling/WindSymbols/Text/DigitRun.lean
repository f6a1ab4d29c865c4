/-!
Runs of digits, with single underscores between them if need be.
-/

namespace WindSymbols.Text

def digitRunFrom (isOne : Char → Bool) : List Char → List Char × List Char
  | [] => ([], [])
  | ['_'] => ([], ['_'])
  | '_' :: d :: rest =>
    if isOne d then
      let (digits, after) := digitRunFrom isOne rest
      (d :: digits, after)
    else ([], '_' :: d :: rest)
  | d :: rest =>
    if isOne d then
      let (digits, after) := digitRunFrom isOne rest
      (d :: digits, after)
    else ([], d :: rest)

def digitRun (isOne : Char → Bool) (cs : List Char) : List Char × List Char :=
  if cs.head?.any isOne then digitRunFrom isOne cs else ([], cs)

end WindSymbols.Text
