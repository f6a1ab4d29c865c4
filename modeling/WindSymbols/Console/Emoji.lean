import WindSymbols.Console.EmojiTable
import WindSymbols.Text.Blank
import WindSymbols.Text.Lowercase

/-!
Emoji codes. A name between two colons stands for the emoji of that name, and a name that ends in
`-text` or `-emoji` for its look as a letter or as a picture. Anything else between colons is left
as it is.
-/

namespace WindSymbols.Markup

open Text

def upToColon? : List Char → Option (List Char × List Char)
  | [] => none
  | c :: rest =>
    if c = ':' then some ([], rest)
    else if isBlank c then none
    else (upToColon? rest).map fun parts => (c :: parts.1, parts.2)

theorem upToColon?_length {cs code rest : List Char} (h : upToColon? cs = some (code, rest)) :
    rest.length < cs.length := by
  induction cs generalizing code with
  | nil => simp [upToColon?] at h
  | cons c cs ih =>
    simp only [upToColon?] at h
    split at h
    · cases h
      simp
    · split at h
      · cases h
      · obtain ⟨parts, hp, heq⟩ := Option.map_eq_some_iff.mp h
        cases heq
        exact Nat.lt_succ_of_lt (ih hp)

def looks : List (List Char × List Char) :=
  [("-text".toList, ['\ufe0e']), ("-emoji".toList, ['\ufe0f'])]

def splitLook (code : List Char) : List Char × List Char :=
  match looks.find? fun look => look.1.isSuffixOf code with
  | some (ending, look) => (code.take (code.length - ending.length), look)
  | none => (code, [])

def emoji? (code : List Char) : Option (List Char) :=
  let (name, look) := splitLook code
  (emojiTables.findSome? (·.lookup (.ofList (lower name)))).map (·.toList ++ look)

def showEmoji (cs : List Char) : List Char :=
  match cs with
  | [] => []
  | c :: rest =>
    if c = ':' then
      match h : upToColon? rest with
      | some (code, after) =>
        have : after.length < rest.length := upToColon?_length h
        (emoji? code).getD (':' :: code ++ [':']) ++ showEmoji after
      | none => c :: showEmoji rest
    else c :: showEmoji rest
termination_by cs.length

end WindSymbols.Markup
