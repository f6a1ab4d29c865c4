import WindSymbols.Number.Decimal
import WindSymbols.Number.Scalar
import WindSymbols.Text.Charset
import WindSymbols.Text.Digit
import WindSymbols.Text.DigitRun
import WindSymbols.Text.Word

/-!
The tokens of a unit expression: numbers, names, signs and parentheses. Blanks, notes after `#`,
quoted text, and signs that mean nothing here stand for nothing.
-/

namespace WindSymbols.Velocity

open Text

inductive Sign
  | plus
  | minus
  | times
  | per
  /-- A quotient without its fraction. -/
  | perWhole
  | power
deriving DecidableEq

inductive Token
  | number (value : Scalar)
  | name (letters : String)
  | sign (s : Sign)
  | opening
  | closing
deriving DecidableEq

/-- What stands at the start of a text: a token if it means anything, how many brackets it opens or
closes, and the text after it. -/
structure Word where
  token : Option Token
  depth : Int := 0
  rest : List Char

namespace Word

/-! Numbers. -/

def digits (cs : List Char) : List Char × List Char := digitRun Char.isDigit cs

def exponent? : List Char → Option (Int × List Char)
  | [] => none
  | e :: rest =>
    let (negative, unsigned) :=
      match rest with
      | '-' :: rest => (true, rest)
      | '+' :: rest => (false, rest)
      | _ => (false, rest)
    let (ds, after) := digits unsigned
    if (e = 'e' ∨ e = 'E') ∧ ds ≠ [] then
      some (if negative then -(valueOfDigits ds : Int) else valueOfDigits ds, after)
    else none

def wholeNumber (ds : List Char) : Scalar :=
  if mostDigits < ds.length then .real (Decimal.toBinary64 false ⟨valueOfDigits ds, 0⟩)
  else .whole (valueOfDigits ds)

def zeros : List Char → List Char × List Char
  | '0' :: rest =>
    let (ds, after) := zeros rest
    ('0' :: ds, after)
  | '_' :: '0' :: rest =>
    let (ds, after) := zeros rest
    ('0' :: ds, after)
  | cs => ([], cs)

def wholePart (cs : List Char) : List Char × List Char :=
  if cs.head? = some '0' then zeros cs else digits cs

def marksOther (zero : Bool) (after : List Char) : Bool :=
  match after with
  | c :: rest =>
    c = 'j' || c = 'J' ||
      zero && "xXoObB".toList.contains c && rest.head?.any (fun d => d.isAlphanum || d = '_')
  | [] => false

def number? (cs : List Char) : Option Word :=
  let (whole, after) := digits cs
  let (point, fraction, afterFraction) :=
    match after with
    | '.' :: rest =>
      let (fraction, rest) := digits rest
      (true, fraction, rest)
    | _ => (false, [], after)
  match point, exponent? afterFraction with
  | false, none =>
    let (ds, rest) := wholePart cs
    if marksOther (ds = ['0']) rest || marksOther false after then none
    else some ⟨some (.number (wholeNumber ds)), 0, rest⟩
  | _, exponent =>
    let (power, rest) := exponent.getD (0, afterFraction)
    let decimal : Decimal := ⟨valueOfDigits (whole ++ fraction), power - fraction.length⟩
    let value := decimal.toBinary64 false
    if marksOther false rest then none else some ⟨some (.number (.real value)), 0, rest⟩

/-! Quoted text. -/

def quoteLetters : List (List Char) :=
  [[], ['b'], ['r'], ['u'], ['f'], ['b', 'r'], ['r', 'b'], ['f', 'r'], ['r', 'f']]

def openingQuote? (cs : List Char) : Option (Char × List Char) :=
  quoteLetters.findSome? fun letters =>
    if (cs.take letters.length).map Char.toLower = letters then
      match cs.drop letters.length with
      | '\'' :: rest => some ('\'', rest)
      | '"' :: rest => some ('"', rest)
      | _ => none
    else none

def afterQuote? (closing : List Char) (lines : Bool) : List Char → Option (List Char)
  | [] => none
  | ['\\'] => none
  | '\\' :: d :: rest => if d = '\n' && !lines then none else afterQuote? closing lines rest
  | c :: rest =>
    if closing.isPrefixOf (c :: rest) then some ((c :: rest).drop closing.length)
    else if c = '\n' && !lines then none
    else afterQuote? closing lines rest

inductive Quoted
  | passed (rest : List Char)
  | unfinished
  | absent

def quoted (cs : List Char) : Quoted :=
  match openingQuote? cs with
  | none => .absent
  | some (quote, rest) =>
    if [quote, quote].isPrefixOf rest then
      match afterQuote? [quote, quote, quote] true (rest.drop 2) with
      | some rest => .passed rest
      | none => .unfinished
    else
      match afterQuote? [quote] false rest with
      | some rest => .passed rest
      | none => .absent

/-! Signs. Those that are followed by an equals sign mean nothing. -/

def meaningless (rest : List Char) : Word := ⟨none, 0, rest⟩

def ofSign (s : Sign) (rest : List Char) : Word :=
  match rest with
  | '=' :: rest => meaningless rest
  | _ => ⟨some (.sign s), 0, rest⟩

def ofMark (c : Char) (rest : List Char) : Word :=
  match c, rest with
  | '*', '*' :: rest => ofSign .power rest
  | '*', rest => ofSign .times rest
  | '/', '/' :: rest => ofSign .perWhole rest
  | '/', rest => ofSign .per rest
  | '-', '>' :: rest => meaningless rest
  | '-', rest => ofSign .minus rest
  | '+', rest => ofSign .plus rest
  | '.', '.' :: '.' :: rest => meaningless rest
  | '(', rest => ⟨some .opening, 1, rest⟩
  | ')', rest => ⟨some .closing, -1, rest⟩
  | '[', rest => ⟨none, 1, rest⟩
  | ']', rest => ⟨none, -1, rest⟩
  | '\x7b', rest => ⟨none, 1, rest⟩
  | '\x7d', rest => ⟨none, -1, rest⟩
  | _, rest => meaningless rest

def first? (c : Char) (rest : List Char) : Option Word :=
  if c = '#' then some (meaningless (rest.dropWhile fun d => d ≠ '\n' && d ≠ '\r'))
  else
    match quoted (c :: rest) with
    | .passed rest => some (meaningless rest)
    | .unfinished => none
    | .absent =>
      if c.isDigit || c = '.' && rest.head?.any Char.isDigit then number? (c :: rest)
      else if isWordChar c then
        let after := rest.dropWhile isWordChar
        if isNameStart c then
          some ⟨some (.name (.ofList (c :: rest.takeWhile isWordChar))), 0, after⟩
        else some (meaningless after)
      else some (ofMark c rest)

end Word

/-! Lines. One that begins where all brackets are closed may be indented more than the one before
it, or as much as an earlier one that it goes back to. Lines of blanks and notes do not count. -/

/-- What has been read of a text: how many brackets are open, the indentations that a line may go
back to, and whether a line begins here. -/
structure Lines where
  depth : Int := 0
  indents : List Nat := [0]
  begins : Bool := true

namespace Lines

def indentation : Nat → List Char → Nat × List Char
  | column, ' ' :: rest => indentation (column + 1) rest
  | column, '\t' :: rest => indentation ((column / 8 + 1) * 8) rest
  | _, '\x0c' :: rest => indentation 0 rest
  | column, cs => (column, cs)

theorem indentation_length (column : Nat) (cs : List Char) :
    (indentation column cs).2.length ≤ cs.length := by
  fun_induction indentation column cs <;> simp_all <;> omega

/-- The text from the first line on that has more than blanks and a note. A line counts as blank if
a carriage return is the first of its signs. -/
def skipBlank (cs : List Char) : List Char :=
  match h : (indentation 0 cs).2 with
  | [] => []
  | c :: rest =>
    have : (c :: rest).length ≤ cs.length := h ▸ indentation_length 0 cs
    if c = '#' ∨ c = '\r' ∨ c = '\n' then
      skipBlank (((c :: rest).dropWhile (· ≠ '\n')).drop 1)
    else cs
termination_by cs.length
decreasing_by
  have := (List.dropWhile_suffix (l := c :: rest) (· ≠ '\n')).length_le
  simp at *
  omega

def indent? (column : Nat) (indents : List Nat) : Option (List Nat) :=
  if indents.head?.any (· < column) then some (column :: indents)
  else
    let outer := indents.dropWhile (column < ·)
    if outer.head? = some column then some outer else none

def start? (s : Lines) (cs : List Char) : Option (Lines × List Char) :=
  if s.begins && s.depth = 0 then
    match indentation 0 (skipBlank cs) with
    | (_, []) => some (s, [])
    | (column, cs) => do
      return ({ s with indents := ← indent? column s.indents, begins := false }, cs)
  else some ({ s with begins := false }, cs)

end Lines

namespace Token

def scanFrom : Nat → Lines → List Char → Option (List Token)
  | fuel, s, cs => do
    match fuel, ← s.start? cs with
    | _, (s, []) => if s.depth = 0 then some [] else none
    | 0, _ => none
    | fuel + 1, (s, c :: rest) =>
      let word ← Word.first? c rest
      let depth := s.depth + word.depth
      let tokens ← scanFrom fuel { s with depth, begins := c = '\n' } word.rest
      return word.token.toList ++ tokens

def scan (cs : List Char) : Option (List Token) :=
  let cs := if cs.head? = some '\ufeff' then cs.drop 1 else cs
  if Charset.isReadable cs then scanFrom cs.length {} cs else none

end Token
end WindSymbols.Velocity
