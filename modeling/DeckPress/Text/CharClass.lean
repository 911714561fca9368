import DeckPress.Text.Table.CharClass

/-!
# Classes of characters

ASCII classes are decided by comparison, so that statements about ASCII text compute; only above
U+007F does a class look into its table.
-/

namespace DeckPress.Text

def isAsciiDigit (c : Char) : Bool := '0' ≤ c && c ≤ '9'

def isAsciiLower (c : Char) : Bool := 'a' ≤ c && c ≤ 'z'

def isAsciiUpper (c : Char) : Bool := 'A' ≤ c && c ≤ 'Z'

def isAsciiAlpha (c : Char) : Bool := isAsciiLower c || isAsciiUpper c

def isAsciiAlnum (c : Char) : Bool := isAsciiAlpha c || isAsciiDigit c

def isHexDigit (c : Char) : Bool :=
  isAsciiDigit c || ('a' ≤ c && c ≤ 'f') || ('A' ≤ c && c ≤ 'F')

/-- The four ASCII blocks of signs that are neither letters, digits, blanks nor controls. -/
def isAsciiPunctuation (c : Char) : Bool :=
  ('!' ≤ c && c ≤ '/') || (':' ≤ c && c ≤ '@') || ('[' ≤ c && c ≤ '`') || ('{' ≤ c && c ≤ '~')

def isAsciiControl (c : Char) : Bool := c.toNat < 0x20 || c.toNat = 0x7f

/-- The property White_Space. -/
def isWhite (c : Char) : Bool :=
  c = ' ' || (0x09 ≤ c.toNat && c.toNat ≤ 0x0d) || c.toNat = 0x85 || c.toNat = 0xa0 ||
    c.toNat = 0x1680 || (0x2000 ≤ c.toNat && c.toNat ≤ 0x200a) || c.toNat = 0x2028 ||
    c.toNat = 0x2029 || c.toNat = 0x202f || c.toNat = 0x205f || c.toNat = 0x3000

/-- Word characters of Unicode regular expressions. -/
def isWord (c : Char) : Bool :=
  if c.toNat < 0x80 then isAsciiAlnum c || c = '_' else wordTable.contains c.toNat

/-- Decimal digits of any script. -/
def isDigit (c : Char) : Bool :=
  if c.toNat < 0x80 then isAsciiDigit c else digitTable.contains c.toNat

/-- The general categories that start with P. -/
def isPunctuation (c : Char) : Bool :=
  if c.toNat < 0x80 then
    isAsciiPunctuation c && !(['$', '+', '<', '=', '>', '^', '`', '|', '~'].contains c)
  else punctuationTable.contains c.toNat

/-- Characters that quoted text shows as they are. -/
def isPrintable (c : Char) : Bool :=
  if c.toNat < 0x80 then !isAsciiControl c else !unprintableTable.contains c.toNat

/-- A word boundary lies between two neighbours of which exactly one is a word character. The end
of the text counts as a non-word character. -/
def isBoundary (before after : Option Char) : Bool :=
  before.any isWord != after.any isWord

end DeckPress.Text
