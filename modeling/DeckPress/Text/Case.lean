import DeckPress.Text.CharClass
import DeckPress.Text.Table.Case

/-!
# Letter case

The full Unicode mappings, under which a character may become several (`ß` has the upper case `SS`).
The lower case of a whole text knows one rule more: a capital sigma at the end of a word becomes the
final form.
-/

namespace DeckPress.Text

def asciiLower (c : Char) : Char :=
  if isAsciiUpper c then Char.ofNat (c.toNat + 32) else c

def asciiUpper (c : Char) : Char :=
  if isAsciiLower c then Char.ofNat (c.toNat - 32) else c

/-- The lower case of one character. -/
def charLower (c : Char) : List Char :=
  if c.toNat < 0x80 then [asciiLower c] else (lowerCaseTable.get? c.toNat).getD [c]

/-- The upper case of one character. -/
def charUpper (c : Char) : List Char :=
  if c.toNat < 0x80 then [asciiUpper c] else (upperCaseTable.get? c.toNat).getD [c]

def isCased (c : Char) : Bool :=
  if c.toNat < 0x80 then isAsciiAlpha c else casedTable.contains c.toNat

def isCaseIgnorable (c : Char) : Bool :=
  if c.toNat < 0x80 then ['\'', '.', ':', '^', '`'].contains c
  else caseIgnorableTable.contains c.toNat

/-- Whether the first character that matters for case is a cased one. -/
def meetsCased (s : List Char) : Bool :=
  (s.dropWhile isCaseIgnorable).head?.any isCased

/-- Lower case with the text already passed, nearest character first. -/
def lowercaseAfter (passed : List Char) : List Char → List Char
  | [] => []
  | c :: cs =>
    let image :=
      if c = 'Σ' then [if meetsCased passed && !meetsCased cs then 'ς' else 'σ'] else charLower c
    image ++ lowercaseAfter (c :: passed) cs

/-- The lower case of a text. -/
def lowercase (s : List Char) : List Char := lowercaseAfter [] s

end DeckPress.Text
