import WindSymbols.Console.Emoji
import WindSymbols.Console.Literal
import WindSymbols.Console.StyleName

/-!
Console markup. A tag such as `[bold]` opens a style and `[/bold]` or `[/]` closes one; a backslash
before a tag makes it text. Between tags, codes of emoji are shown as emoji. `escape` protects a
text from tags, and `plain` is what a marked-up text shows, unless it closes a style that is not
open.
-/

namespace WindSymbols.Markup

open Text

def isTagStart (c : Char) : Bool :=
  ('a' ≤ c && c ≤ 'z') || c = '#' || c = '/' || c = '@'

def tagBody : List Char → Option (List Char × List Char)
  | [] => none
  | c :: rest =>
    if c = '[' then none
    else if c = ']' then some ([], rest)
    else (tagBody rest).map fun parts => (c :: parts.1, parts.2)

def tag? : List Char → Option (List Char × List Char)
  | [] => none
  | c :: rest =>
    if isTagStart c then (tagBody rest).map fun parts => (c :: parts.1, parts.2) else none

theorem tagBody_length {cs body rest : List Char} (h : tagBody cs = some (body, rest)) :
    rest.length < cs.length := by
  induction cs generalizing body with
  | nil => simp [tagBody] at h
  | cons c cs ih =>
    simp only [tagBody] at h
    split at h
    · cases h
    · split at h
      · cases h
        simp
      · obtain ⟨parts, hp, heq⟩ := Option.map_eq_some_iff.mp h
        cases heq
        exact Nat.lt_succ_of_lt (ih hp)

theorem tag?_length {cs body rest : List Char} (h : tag? cs = some (body, rest)) :
    rest.length < cs.length := by
  cases cs with
  | nil => simp [tag?] at h
  | cons c cs =>
    simp only [tag?] at h
    split at h
    · obtain ⟨parts, hp, heq⟩ := Option.map_eq_some_iff.mp h
      cases heq
      exact Nat.lt_succ_of_lt (tagBody_length hp)
    · cases h

def backslashes (count : Nat) : List Char := List.replicate count '\\'

/-- Backslashes before a tag are doubled and one more is added. The count is of those that have
just been passed. -/
def escapeTags : Nat → List Char → List Char
  | _, [] => []
  | passed, c :: rest =>
    if c = '\\' then c :: escapeTags (passed + 1) rest
    else if c = '[' ∧ (tag? rest).isSome then backslashes (passed + 1) ++ c :: escapeTags 0 rest
    else c :: escapeTags 0 rest

/-- A text that ends in exactly one backslash. -/
def endsInBackslash (cs : List Char) : Bool :=
  match cs.reverse with
  | '\\' :: '\\' :: _ => false
  | '\\' :: _ => true
  | _ => false

def escapeChars (cs : List Char) : List Char :=
  let escaped := escapeTags 0 cs
  if endsInBackslash escaped then escaped ++ ['\\'] else escaped

def escape (s : String) : String := .ofList (escapeChars s.toList)

inductive Piece
  | shown (cs : List Char)
  | tag (body : List Char)
deriving DecidableEq

/-- The text up to the first tag of a marked-up text, and the pieces from there on. Of the
backslashes before a tag every second one is shown, and an odd one makes the tag a text by itself;
before any other bracket the last one is left out. -/
def pieces (passed : Nat) (cs : List Char) : List Char × List Piece :=
  match cs with
  | [] => (backslashes passed, [])
  | c :: rest =>
    if c = '\\' then pieces (passed + 1) rest
    else if c = '[' then
      match h : tag? rest with
      | some (body, after) =>
        have : after.length < rest.length := tag?_length h
        let piece := if passed % 2 = 1 then .shown ('[' :: body ++ [']']) else .tag body
        let (text, more) := pieces 0 after
        (backslashes (passed / 2), piece :: .shown text :: more)
      | none =>
        let (text, more) := pieces 0 rest
        (backslashes (passed - 1) ++ c :: text, more)
    else
      let (text, more) := pieces 0 rest
      (backslashes passed ++ c :: text, more)
termination_by cs.length

structure Opened where
  name : String
  parameter : Option (List Char)

namespace Opened

def ofTag (body : List Char) : Except MarkupFault Opened := do
  match cut? ['='] body with
  | some (name, parameter) => return ⟨← styleName name, some parameter⟩
  | none => return ⟨← styleName body, none⟩

def check (o : Opened) : Except MarkupFault Unit :=
  if o.name.startsWith "@" && !(o.parameter.all fun p => p = [] || Literal.isParameter p) then
    .error .badParameter
  else .ok ()

end Opened

/-- The styles open after a closing tag, the last opened first. -/
def close (opened : List Opened) (name : List Char) : Except MarkupFault (List Opened) := do
  if trim name = [] then
    match opened with
    | [] => throw .closesNothing
    | last :: rest =>
      last.check
      return rest
  else
    let name ← styleName name
    match opened.find? (·.name = name) with
    | none => throw .closesNothing
    | some last =>
      last.check
      return opened.eraseP (·.name = name)

def applyTag (opened : List Opened) (body : List Char) : Except MarkupFault (List Opened) := do
  match body with
  | '/' :: closed => close opened (((cut? ['='] closed).map Prod.fst).getD closed)
  | _ => return (← Opened.ofTag body) :: opened

def shown : List Opened → List Piece → Except MarkupFault (List Char)
  | _, [] => .ok []
  | opened, .shown cs :: rest => (shown opened rest).map (showEmoji cs ++ ·)
  | opened, .tag body :: rest => do shown (← applyTag opened body) rest

def isControl (c : Char) : Bool := [7, 8, 11, 12, 13].contains c.toNat

def plainChars (cs : List Char) : Except MarkupFault (List Char) :=
  let (text, more) := pieces 0 cs
  (shown [] (.shown text :: more)).map (·.filter (!isControl ·))

def plain (s : String) : Except MarkupFault String := (plainChars s.toList).map .ofList

end WindSymbols.Markup
