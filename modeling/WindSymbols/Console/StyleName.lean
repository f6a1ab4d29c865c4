import WindSymbols.Console.ColourName
import WindSymbols.Text.Blank
import WindSymbols.Text.Cut
import WindSymbols.Text.Digit
import WindSymbols.Text.Lowercase

/-!
Names of console styles. A style is told by words in any order: attributes, a colour, a background
after `on` and an address after `link`. It is opened and closed under one name, in which the words
have a fixed order; a name that tells no style stands for itself.
-/

namespace WindSymbols.Markup

open Text

inductive MarkupFault
  | closesNothing
  | badParameter
  | noDigits
  | tooManyDigits (count : Nat)
deriving DecidableEq

def MarkupFault.message? : MarkupFault → Option String
  | noDigits => some "invalid literal for int() with base 10: ''"
  | tooManyDigits count => some (tooManyDigitsMessage count)
  | _ => none

def attributes : List String :=
  ["bold", "dim", "italic", "underline", "blink", "blink2", "reverse", "conceal", "strike",
    "underline2", "frame", "encircle", "overline"]

def shortAttributes : List (String × String) :=
  [("b", "bold"), ("d", "dim"), ("i", "italic"), ("u", "underline"), ("uu", "underline2"),
    ("r", "reverse"), ("c", "conceal"), ("s", "strike"), ("o", "overline")]

def attribute? (word : String) : Option String :=
  if word ∈ attributes then some word else shortAttributes.lookup word

/-! Colours: by name, or by numbers up to 255. -/

def largestLevel : Nat := 255

def inParentheses? (word : String) (cs : List Char) : Option (List Char) :=
  match cut? (word.toList ++ ['(']) cs with
  | some ([], rest) => if rest.getLast? = some ')' then some rest.dropLast else none
  | _ => none

def isHexColour (cs : List Char) : Bool :=
  match cs with
  | '#' :: digits => digits.length = 6 && digits.all fun c => c.isDigit || ('a' ≤ c && c ≤ 'f')
  | _ => false

def isColourNumber (cs : List Char) : Bool :=
  match inParentheses? "color" cs with
  | some digits =>
    digits ≠ [] && digits.length ≤ 3 && digits.all Char.isDigit &&
      numberOfDigits digits ≤ largestLevel
  | none => false

def readLevel (digits : List Char) : Except MarkupFault Nat :=
  if digits = [] then .error .noDigits
  else if mostDigits < digits.length then .error (.tooManyDigits digits.length)
  else .ok (numberOfDigits digits)

def isLevels (cs : List Char) : Except MarkupFault Bool :=
  match inParentheses? "rgb" cs with
  | none => .ok false
  | some inner =>
    let levels := pieces ',' inner
    if !inner.all (fun c => c = ',' || isDecimalDigit c) || levels.length ≠ 3 then .ok false
    else do return (← levels.mapM readLevel).all (· ≤ largestLevel)

def isColour (word : String) : Except MarkupFault Bool :=
  if word = "default" || colourNames.contains word || isHexColour word.toList ||
      isColourNumber word.toList then .ok true
  else isLevels word.toList

structure Style where
  attributes : List (String × Bool) := []
  colour : Option String := none
  background : Option String := none
  link : Option String := none

namespace Style

def withAttribute (s : Style) (name : String) (on : Bool) : Style :=
  { s with attributes := (name, on) :: s.attributes }

def words (s : Style) : List String :=
  (Markup.attributes.filterMap fun name =>
    (s.attributes.lookup name).map fun on => if on then name else "not " ++ name) ++
  s.colour.toList ++ (s.background.map ("on " ++ ·)).toList ++ (s.link.map ("link " ++ ·)).toList

def name (s : Style) : String := if s.words = [] then "none" else " ".intercalate s.words

end Style

def lowered (word : List Char) : String := .ofList (lower word)

def readWords (s : Style) : List (List Char) → Except MarkupFault (Option Style)
  | [] => .ok (some s)
  | first :: rest =>
    match lowered first, rest with
    | "on", [] => .ok none
    | "on", word :: rest => do
      if ← isColour (lowered word) then readWords { s with background := lowered word } rest
      else return none
    | "not", [] => .ok none
    | "not", word :: rest =>
      match attribute? (.ofList word) with
      | some name => readWords (s.withAttribute name false) rest
      | none => .ok none
    | "link", [] => .ok none
    | "link", word :: rest => readWords { s with link := some (.ofList word) } rest
    | word, rest =>
      match attribute? word with
      | some name => readWords (s.withAttribute name true) rest
      | none => do
        if ← isColour word then readWords { s with colour := word } rest
        else return none

def wordsOf (cs : List Char) : List (List Char) :=
  (pieces ' ' (cs.map fun c => if isBlank c then ' ' else c)).filter (· ≠ [])

def Style.read (cs : List Char) : Except MarkupFault (Option Style) :=
  if trim cs = "none".toList then .ok (some {}) else readWords {} (wordsOf cs)

def styleName (cs : List Char) : Except MarkupFault String := do
  match ← Style.read cs with
  | some s => return s.name
  | none => return lowered (trim cs)

end WindSymbols.Markup
