import DeckPress.Text.CodeSet
import DeckPress.Text.Table.Category

/-!
# General categories

Every code point has one general category, which is named by two letters. The table leaves out the code
points that have none of their own: the unassigned ones and the surrogates.
-/

namespace DeckPress.Text

/-- The code points that stand for halves of characters in another encoding. -/
def surrogates : CodeRanges := ⟨#[(0xd800, 0xdfff)]⟩

/-- The code points that have a general category of their own. -/
def assigned : Thunk CodeRanges :=
  .mk fun _ => .unionAll (surrogates :: categoryTable.map fun (_, codes) => .ofHex codes)

/-- The members of one category. -/
def category (code : String) : CodeRanges :=
  if code = "cn" then assigned.get.complement
  else ((categoryTable.lookup code).map CodeRanges.ofHex).getD .none

/-- The members of several categories, whose names stand between blanks. -/
def categories (codes : String) : CodeRanges :=
  .unionAll ((tableFields codes.toList).map fun code => category (String.ofList code))

/-- The marks of any script. -/
def markSet : Thunk CodeRanges := .mk fun _ => categories "mn mc me"

/-- Whether a character is a mark on the one before it. -/
def isMark (c : Char) : Bool := 0x300 ≤ c.toNat && markSet.get.contains c.toNat

end DeckPress.Text
