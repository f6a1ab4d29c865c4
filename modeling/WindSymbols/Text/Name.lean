import WindSymbols.Text.Blank
import WindSymbols.Text.Lowercase

/-!
Names that are compared without regard to case.
-/

namespace WindSymbols.Text

def lowerText (s : String) : String := .ofList (lower s.toList)

/-- A name without the blanks around it, in lower case. -/
def nameKey (s : String) : String := .ofList (lower (trim s.toList))

end WindSymbols.Text
