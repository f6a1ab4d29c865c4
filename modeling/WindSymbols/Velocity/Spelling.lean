import WindSymbols.Text.Blank
import WindSymbols.Text.Replace
import WindSymbols.Text.Word

/-!
One spelling for each unit expression. Words such as `per` and `squared`, raised digits, the signs
for percent and degrees, and blanks between factors are written with the signs `*`, `/` and `**`.
-/

namespace WindSymbols.Velocity.Spelling

open Text

def joinsBlanks (c : Char) : Bool := isWordChar c || ['.', '-', '+', '*', '\\', '^'].contains c

def squeezeBlanks (cs : List Char) : List Char :=
  match cs with
  | [] => []
  | c :: rest =>
    have := (List.dropWhile_suffix (l := rest) isBlank).length_le
    if joinsBlanks c && rest.head?.any isBlank then
      c :: ' ' :: squeezeBlanks (rest.dropWhile isBlank)
    else c :: squeezeBlanks rest
termination_by cs.length
decreasing_by all_goals simp <;> omega

/-- A word after a name raises the name to a power. The flag says whether a name has just been
passed. -/
def raiseBefore (word power : List Char) (named : Bool) (cs : List Char) : List Char :=
  match cs with
  | [] => []
  | c :: rest =>
    if named && word.isPrefixOf (c :: rest) then
      power ++ raiseBefore word power false (rest.drop (word.length - 1))
    else c :: raiseBefore word power (isPlainNameStart c || named && c.isDigit) rest
termination_by cs.length
decreasing_by all_goals (simp only [List.length_drop, List.length_cons]; omega)

def raiseAfter (word power : List Char) (cs : List Char) : List Char :=
  match cs with
  | [] => []
  | c :: rest =>
    let after := (c :: rest).drop word.length
    if word.isPrefixOf (c :: rest) && after.head?.any isPlainNameStart then
      let name := after.takeWhile isPlainNameChar
      name ++ power ++ raiseAfter word power (rest.drop (word.length - 1 + name.length))
    else c :: raiseAfter word power rest
termination_by cs.length
decreasing_by all_goals (simp only [List.length_drop, List.length_cons]; omega)

/-- Whether the text after a number begins a factor. Before a digit or a sign, `e` and `E` begin an
exponent. -/
def beginsFactor : List Char → Bool
  | c :: rest =>
    if c = 'e' ∨ c = 'E' ∨ c = '|' then rest.head?.any Char.isAlpha else c.isAlpha
  | [] => false

def plainNumber (cs : List Char) : List Char :=
  let whole := cs.takeWhile Char.isDigit
  match cs.dropWhile Char.isDigit with
  | '.' :: rest => whole ++ '.' :: rest.takeWhile Char.isDigit
  | _ => whole

def multiplyNumbers (previous : Option Char) (cs : List Char) : List Char :=
  match cs with
  | [] => []
  | c :: rest =>
    let digits := plainNumber (c :: rest)
    let after := (c :: rest).drop digits.length
    if c.isDigit && !previous.any isWordChar && beginsFactor after then
      digits ++ '*' :: multiplyNumbers digits.getLast? (rest.drop (digits.length - 1))
    else c :: multiplyNumbers (some c) rest
termination_by cs.length
decreasing_by all_goals (simp only [List.length_drop, List.length_cons]; omega)

def multiplyBlanks (cs : List Char) : List Char :=
  match cs with
  | [] => []
  | c :: rest =>
    have := (List.dropWhile_suffix (l := rest) isBlank).length_le
    let after := rest.dropWhile isBlank
    if (isWordChar c || c = '.' || c = ')') && rest.head?.any isBlank &&
        after.head?.any (fun d => isWordChar d || d = '(') then
      c :: '*' :: multiplyBlanks after
    else c :: multiplyBlanks rest
termination_by cs.length
decreasing_by all_goals simp <;> omega

def raisedDigits : List Char := "⁰¹²³⁴⁵⁶⁷⁸⁹".toList

def isRaisedDigit (c : Char) : Bool := raisedDigits.contains c

def raisedNumber (cs : List Char) : List Char :=
  let whole := cs.takeWhile isRaisedDigit
  match cs.dropWhile isRaisedDigit with
  | '.' :: rest => whole ++ '.' :: rest.takeWhile isRaisedDigit
  | _ => whole

def exponent (cs : List Char) : List Char :=
  match cs with
  | '⁻' :: rest => if rest.head?.any isRaisedDigit then '⁻' :: raisedNumber rest else []
  | c :: rest => if isRaisedDigit c then raisedNumber (c :: rest) else []
  | [] => []

def lowered (c : Char) : Char :=
  if c = '⁻' then '-'
  else if c = '·' then '*'
  else ((raisedDigits.zip "0123456789".toList).lookup c).getD c

def lowerExponents (cs : List Char) : List Char :=
  match cs with
  | [] => []
  | c :: rest =>
    let raised := exponent (c :: rest)
    if raised = [] then lowered c :: lowerExponents rest
    else "**(".toList ++ raised.map lowered ++ ')' :: lowerExponents (rest.drop (raised.length - 1))
termination_by cs.length
decreasing_by all_goals (simp only [List.length_drop, List.length_cons]; omega)

def spellBrackets (cs : List Char) : List Char :=
  if cs.contains '[' then
    replaceChar ']' "__cbra__".toList (replaceChar '[' "__obra__".toList cs)
  else cs

def raiseNamed (cs : List Char) : List Char :=
  raiseAfter "sq ".toList "**2".toList <|
  raiseAfter "square ".toList "**2".toList <|
  raiseAfter "cubic ".toList "**3".toList <|
  raiseBefore " cubed".toList "**3".toList false <|
  raiseBefore " squared".toList "**2".toList false cs

def inSigns (cs : List Char) : List Char :=
  spellBrackets <| replaceChar '^' "**".toList <| lowerExponents <| multiplyBlanks <|
  multiplyNumbers none <| raiseNamed <| squeezeBlanks <| replaceChar '°' "degree".toList <|
  replace " per ".toList ['/'] <| replaceChar ',' [] cs

def nameRatios (cs : List Char) : List Char :=
  trim (replaceChar '‰' " permille ".toList (replaceChar '%' " percent ".toList cs))

end WindSymbols.Velocity.Spelling
