import WindSymbols.Text.Cut

/-!
Locations of directories and files, written with slashes. Empty names and single dots say nothing;
two dots lead up.
-/

namespace WindSymbols

structure Location where
  /-- A location with one slash, or exactly two, in front does not depend on where it is seen
  from. -/
  root : String
  names : List String
deriving DecidableEq

namespace Location

def rootOf (cs : List Char) : String :=
  match cs.takeWhile (· = '/') with
  | [] => ""
  | ['/', '/'] => "//"
  | _ => "/"

def ofString (s : String) : Location :=
  ⟨rootOf s.toList,
    ((Text.pieces '/' s.toList).map .ofList).filter fun name => name ≠ "" && name ≠ "."⟩

def append (l : Location) (name : String) : Location := { l with names := l.names ++ [name] }

def text (l : Location) : String :=
  if l.root = "" && l.names.isEmpty then "." else l.root ++ "/".intercalate l.names

def absoluteText (directory : String) (l : Location) : String :=
  if l.root ≠ "" then l.text
  else if l.names.isEmpty then directory
  else directory ++ "/" ++ l.text

inductive Fault
  | nullCharacter
  | tooLong
deriving DecidableEq

def Fault.message? : Fault → Option String
  | nullCharacter => some "embedded null byte"
  | tooLong => none

def longestName : Nat := 255

def longest : Nat := 4095

def check (l : Location) : Except Fault Unit :=
  if l.names.any (·.toList.contains '\x00') then .error .nullCharacter
  else if l.names.any (longestName < ·.utf8ByteSize) || longest < l.text.utf8ByteSize then
    .error .tooLong
  else .ok ()

def walk (place : Option (List String)) (name : String) : Option (List String) :=
  place.bind fun names =>
    if name = ".." then if names.isEmpty then none else some names.dropLast
    else some (names ++ [name])

def resolve (place : List String) (l : Location) : Option (List String) :=
  if l.root = "" then l.names.foldl walk (some place) else none

end Location
end WindSymbols
