import WindSymbols.Text.WordTable

/-!
Words: runs of letters, numerals and underscores. A name is a word that begins with a letter or an
underscore.
-/

namespace WindSymbols.Text

def isWordChar (c : Char) : Bool :=
  c.isAlphanum || c = '_' || (0x80 ≤ c.toNat && wordRanges.contains c)

def isNameStart (c : Char) : Bool :=
  isWordChar c && !c.isDigit && !numeralRanges.contains c

def isPlainNameStart (c : Char) : Bool := c.isAlpha || c = '_'

def isPlainNameChar (c : Char) : Bool := isPlainNameStart c || c.isDigit

end WindSymbols.Text
