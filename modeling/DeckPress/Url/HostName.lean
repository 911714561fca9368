import DeckPress.Text.Case
import DeckPress.Url.Label
import DeckPress.Url.Punycode
import DeckPress.Url.Table.Host

/-!
# Names of hosts

A name is written in lower case and in composed form, and without differences that are those of style
alone. Labels of it may be written in ASCII. All that matters is what the name is and whether it is
valid.
-/

namespace DeckPress.Url

open Text

/-- What is written for characters in a host. -/
def hostImages : Thunk CodeMap := .mk fun _ => .ofHex hostImageText

def skippedInHost : Thunk CodeRanges := .mk fun _ => .ofHex skippedInHostText

def barredFromHost : Thunk CodeRanges := .mk fun _ => .ofHex barredFromHostText

/-- What is written for a character; none if no host contains it. -/
def hostImage? (c : Char) : Option (List Char) :=
  if c.toNat < 0x80 then some [asciiLower c]
  else if barredFromHost.get.contains c.toNat then none
  else if skippedInHost.get.contains c.toNat then some []
  else some ((hostImages.get.get? c.toNat).getD [c])

/-- What is written for a text in a host. -/
def hostText? (s : List Char) : Option (List Char) := do
  return composed ((← s.mapM hostImage?).flatten)

/-- The longest label that is written in ASCII. -/
def maxWritten : Nat := 2000

/-- The longest label that can be written in ASCII. -/
def maxWritable : Nat := 1000

/-- The label that a part of a name stands for; none if the part is not valid. A label that is written in
ASCII has other characters, and is written as hosts write it. -/
def label? (part : List Char) : Option (List Char) := do
  let label ← match stripPrefix? "xn--".toList part with
    | none => some part
    | some written =>
      if maxWritten < written.length then none
      else (Punycode.decode? written).filter fun label =>
        label.any (0x80 ≤ ·.toNat) && hostText? label = some label
  let ascii := label.all fun c => c.toNat < 0x80
  if ascii || (label.length ≤ maxWritable && isLabel label) then some label else none

/-- The name that a text stands for; none if the text is not valid. -/
def hostName? (s : List Char) : Option (List Char) := do
  let name ← hostText? s
  let labels ← (splitOn (· = '.') name).mapM label?
  if keepOrder labels then some name else none

end DeckPress.Url
