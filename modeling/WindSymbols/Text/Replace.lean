/-!
Replacing every place where a text stands in another one. Places do not overlap, and the first one
counts.
-/

namespace WindSymbols.Text

def replace (old new : List Char) (cs : List Char) : List Char :=
  match cs with
  | [] => []
  | c :: rest =>
    if old.isPrefixOf (c :: rest) then new ++ replace old new (rest.drop (old.length - 1))
    else c :: replace old new rest
termination_by cs.length
decreasing_by all_goals (simp only [List.length_drop, List.length_cons]; omega)

def replaceChar (old : Char) (new : List Char) (cs : List Char) : List Char :=
  cs.flatMap fun c => if c = old then new else [c]

end WindSymbols.Text
