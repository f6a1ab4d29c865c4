import WindSymbols.Text.CharacterName
import WindSymbols.Text.Digit
import WindSymbols.Text.DigitRun
import WindSymbols.Text.Word

/-!
The words that the values of tags are made of: numbers, quoted text, names and signs. Within
brackets line ends and notes count as blanks; outside of them, the first line end is the end of
the value.
-/

namespace WindSymbols.Markup.Literal

open Text

inductive Kind
  | real
  | imaginary
  | signedReal
  | number
  | text
  | bytes
  | fixed
  | tuple
  /-- A set or a dictionary, which cannot be an element or a key. -/
  | changeable
  /-- The name `set`, which makes an empty set. -/
  | setName
deriving DecidableEq

inductive Token
  | value (kind : Kind)
  | opening (brace : Bool)
  | closing (brace : Bool)
  | comma
  | colon
  | sign
deriving DecidableEq

abbrev Read := Option (Kind × List Char)

/-! Numbers. -/

def isHexDigit (c : Char) : Bool := c.isDigit || ('a' ≤ c.toLower && c.toLower ≤ 'f')

def digitsOfBase? (letter : Char) : Option (Char → Bool) :=
  match letter.toLower with
  | 'x' => some isHexDigit
  | 'o' => some fun c => '0' ≤ c && c ≤ '7'
  | 'b' => some fun c => c = '0' || c = '1'
  | _ => none

def afterExponent (cs : List Char) : Option (List Char) :=
  match cs with
  | e :: rest =>
    let unsigned := if rest.head? = some '-' ∨ rest.head? = some '+' then rest.drop 1 else rest
    let (ds, after) := digitRun Char.isDigit unsigned
    if (e = 'e' ∨ e = 'E') ∧ ds ≠ [] then some after else none
  | [] => none

def numberEnd (kind : Kind) (cs : List Char) : Read :=
  let (kind, rest) :=
    match cs with
    | c :: rest => if c = 'j' ∨ c = 'J' then (Kind.imaginary, rest) else (kind, cs)
    | [] => (kind, [])
  if rest.head?.any isWordChar then none else some (kind, rest)

/-- Whether digits are a whole number. One that begins with zero has no other digits. -/
def isWholeNumber (digits : List Char) : Bool :=
  if digits.head? = some '0' then digits.all (· = '0') else digits.length ≤ mostDigits

def number? (cs : List Char) : Read :=
  match cs with
  | '0' :: letter :: rest =>
    match digitsOfBase? letter with
    | some isOne =>
      let rest := if rest.head? = some '_' then rest.drop 1 else rest
      let (ds, after) := digitRun isOne rest
      if ds = [] ∨ after.head?.any isWordChar then none else some (.real, after)
    | none => decimal? cs
  | _ => decimal? cs
where
  decimal? (cs : List Char) : Read :=
    let (whole, after) := digitRun Char.isDigit cs
    match after with
    | '.' :: rest =>
      let (fraction, rest) := digitRun Char.isDigit rest
      if whole = [] ∧ fraction = [] then none
      else numberEnd .real ((afterExponent rest).getD rest)
    | _ =>
      if whole = [] then none
      else
        match afterExponent after with
        | some rest => numberEnd .real rest
        | none =>
          match numberEnd .real after with
          | some (.real, rest) => if isWholeNumber whole then some (.real, rest) else none
          | read => read

/-! Quoted text. -/

def hexValue (digits : List Char) : Nat :=
  digits.foldl (fun n c =>
    16 * n + if c.isDigit then c.toNat - '0'.toNat else c.toLower.toNat - 'a'.toNat + 10) 0

def isCode (count : Nat) (cs : List Char) : Bool :=
  let digits := cs.take count
  digits.length = count && digits.all isHexDigit && hexValue digits ≤ 0x10ffff

def isNamed (cs : List Char) : Bool :=
  match cs with
  | '\x7b' :: rest =>
    rest.contains '\x7d' && isCharacterName (.ofList (rest.takeWhile (· ≠ '\x7d')))
  | _ => false

def isEscape (kind : Kind) (cs : List Char) : Bool :=
  match cs with
  | 'x' :: rest => isCode 2 rest
  | 'u' :: rest => kind = .bytes || isCode 4 rest
  | 'U' :: rest => kind = .bytes || isCode 8 rest
  | 'N' :: rest => kind = .bytes || isNamed rest
  | _ => true

def afterQuote? (kind : Kind) (raw : Bool) (closing : List Char) : List Char → Option (List Char)
  | [] => none
  | ['\\'] => none
  | '\\' :: d :: rest =>
    if kind = .bytes ∧ 0x80 ≤ d.toNat then none
    else if raw || isEscape kind (d :: rest) then afterQuote? kind raw closing rest
    else none
  | c :: rest =>
    if closing.isPrefixOf (c :: rest) then some ((c :: rest).drop closing.length)
    else if c = '\n' ∧ closing.length = 1 then none
    else if kind = .bytes ∧ 0x80 ≤ c.toNat then none
    else afterQuote? kind raw closing rest

def quoteLetters : List (List Char × Kind × Bool) :=
  [([], .text, false), (['r'], .text, true), (['u'], .text, false), (['b'], .bytes, false),
    (['b', 'r'], .bytes, true), (['r', 'b'], .bytes, true)]

def quotedAfter? (kind : Kind) (raw : Bool) (quote : Char) (rest : List Char) : Read :=
  (if [quote, quote].isPrefixOf rest then
    afterQuote? kind raw [quote, quote, quote] (rest.drop 2)
  else afterQuote? kind raw [quote] rest).map (kind, ·)

/-- The quoted text that a text begins with. The inner option is empty if it is not closed. -/
def quoted? (cs : List Char) : Option Read :=
  quoteLetters.findSome? fun (letters, kind, raw) =>
    if (cs.take letters.length).map Char.toLower = letters then
      match cs.drop letters.length with
      | '\'' :: rest => some (quotedAfter? kind raw '\'' rest)
      | '"' :: rest => some (quotedAfter? kind raw '"' rest)
      | _ => none
    else none

/-! Names. -/

def isNameChar (c : Char) : Bool := c.isAlphanum || c = '_' || 0x80 ≤ c.toNat

def plainLetters : List (Char × List Char) :=
  [('s', "ſˢₛｓ𝐬𝑠𝒔𝓈𝓼𝔰𝕤𝖘𝗌𝘀𝘴𝙨𝚜".toList),
    ('e', "ᵉₑℯⅇｅ𝐞𝑒𝒆𝓮𝔢𝕖𝖊𝖾𝗲𝘦𝙚𝚎".toList),
    ('t', "ᵗₜｔ𝐭𝑡𝒕𝓉𝓽𝔱𝕥𝖙𝗍𝘁𝘵𝙩𝚝".toList)]

def plainLetter (c : Char) : Char := ((plainLetters.find? (·.2.contains c)).map (·.1)).getD c

def name? (cs : List Char) : Read :=
  let word := cs.takeWhile isNameChar
  let rest := cs.dropWhile isNameChar
  if word = "None".toList ∨ word = "True".toList ∨ word = "False".toList then some (.fixed, rest)
  else if word.map plainLetter = "set".toList then some (.setName, rest)
  else none

/-! Words. -/

def deepestBrackets : Nat := 200

def isBlankChar (c : Char) : Bool := c = ' ' || c = '\t' || c = '\x0c'

inductive Place
  | start
  | indented
  | note
deriving DecidableEq

/-- The text after lines of nothing but blanks and notes, unless it is indented. -/
def afterBlankLines? : Place → List Char → Option (List Char)
  | _, [] => some []
  | _, '\n' :: rest => afterBlankLines? .start rest
  | .note, _ :: rest => afterBlankLines? .note rest
  | place, c :: rest =>
    if c = '#' then afterBlankLines? .note rest
    else if c = '\x0c' then afterBlankLines? .start rest
    else if isBlankChar c then afterBlankLines? .indented rest
    else if place = .start then some (c :: rest)
    else none

def ofMark? (c : Char) : Option Token :=
  match c with
  | '(' => some (.opening false)
  | ')' => some (.closing false)
  | '\x7b' => some (.opening true)
  | '\x7d' => some (.closing true)
  | ',' => some .comma
  | ':' => some .colon
  | '+' => some .sign
  | '-' => some .sign
  | _ => none

def depthAfter? (depth : Nat) : Token → Option Nat
  | .opening _ => if depth < deepestBrackets then some (depth + 1) else none
  | .closing _ => if depth = 0 then none else some (depth - 1)
  | _ => some depth

def word? (cs : List Char) : Read :=
  match cs, quoted? cs with
  | '.' :: '.' :: '.' :: rest, _ => some (.fixed, rest)
  | _, some read => read
  | c :: _, none => if c.isDigit || c = '.' then number? cs else name? cs
  | [], none => none

def tokensFrom? : Nat → Nat → List Char → Option (List Token)
  | _, _, [] => some []
  | 0, _, _ => none
  | fuel + 1, depth, c :: rest =>
    if isBlankChar c then tokensFrom? fuel depth rest
    else if c = '\n' then
      if depth = 0 then (if afterBlankLines? .start rest = some [] then some [] else none)
      else tokensFrom? fuel depth rest
    else if c = '#' then tokensFrom? fuel depth (rest.dropWhile (· ≠ '\n'))
    else if c = '\\' then
      match rest with
      | '\n' :: after => if after = [] then none else tokensFrom? fuel depth after
      | _ => none
    else
      match ofMark? c with
      | some t => do return t :: (← tokensFrom? fuel (← depthAfter? depth t) rest)
      | none => do
        let (kind, after) ← word? (c :: rest)
        return .value kind :: (← tokensFrom? fuel depth after)

def unifyLineEnds : List Char → List Char
  | '\r' :: '\n' :: rest => '\n' :: unifyLineEnds rest
  | '\r' :: rest => '\n' :: unifyLineEnds rest
  | c :: rest => c :: unifyLineEnds rest
  | [] => []

def tokens? (cs : List Char) : Option (List Token) := do
  if cs.contains '\x00' then none
  else
    let text ← afterBlankLines? .start (unifyLineEnds cs)
    tokensFrom? text.length 0 text

end WindSymbols.Markup.Literal
