import DeckPress.Text.Category
import DeckPress.Text.Composed
import DeckPress.Url.Table.Label

/-!
# Labels of hosts

The parts of a host between its dots are labels. A label does not start with a mark. The two characters
that join letters or keep them apart are only allowed where they make a difference. And if a host has
letters that run from right to left, then all of its labels keep to rules that fix their order on a line.
-/

namespace DeckPress.Url

open Text

/-! ## Joiners -/

def joinsAfter : Thunk CodeRanges := .mk fun _ => .ofHex joinsAfterText

def joinsBefore : Thunk CodeRanges := .mk fun _ => .ofHex joinsBeforeText

def joinsThrough : Thunk CodeRanges := .mk fun _ => .ofHex joinsThroughText

/-- Whether the first character that is not passed through is in a set. -/
def meets (set : CodeRanges) (s : List Char) : Bool :=
  (s.dropWhile fun c => !set.contains c.toNat && joinsThrough.get.contains c.toNat).head?.any fun c =>
    set.contains c.toNat

/-- The class of the signs that drop the vowel of a consonant. -/
def viramaClass : Nat := 9

/-- Whether all joiners stand where they make a difference: behind a consonant without its vowel, or, if
they keep apart, between two letters that would join. `before` is what stands in front, in reverse. -/
def joinersFit (before : List Char) : List Char → Bool
  | [] => true
  | c :: s =>
    let fits :=
      if c = '\u200c' || c = '\u200d' then
        before.head?.any (fun d => combiningClass d = viramaClass) ||
          (c = '\u200c' && meets joinsAfter.get before && meets joinsBefore.get s)
      else true
    fits && joinersFit (c :: before) s

/-! ## Directions -/

/-- How a character takes part in runs of writing. -/
inductive Direction where
  | left
  | right
  | arabicNumber
  | number
  | sign
  | mark
  deriving DecidableEq, Repr

/-- The characters of each direction but the first. -/
def directions : Thunk (List (Direction × CodeRanges)) :=
  .mk fun _ =>
    [(.right, .ofHex rightDirectionText), (.arabicNumber, .ofHex arabicNumberDirectionText),
      (.number, .ofHex numberDirectionText), (.sign, .ofHex signDirectionText),
      (.mark, .ofHex markDirectionText)]

def direction (c : Char) : Direction :=
  ((directions.get.find? fun (_, codes) => codes.contains c.toNat).map (·.1)).getD .left

/-- Whether a direction brings in runs from right to left. -/
def Direction.turns : Direction → Bool
  | .right | .arabicNumber => true
  | _ => false

/-- Whether a label keeps its order on a line in a host with letters from right to left. It starts with a
letter, which fixes its direction, and ends in a letter or a number, marks aside. -/
def keepsOrder (label : List Char) : Bool :=
  let ds := label.map direction
  let last := (ds.reverse.dropWhile (· = .mark)).head?
  match ds.head? with
  | none => true
  | some .left => ds.all (!·.turns) && last.any fun d => d = .left || d = .number
  | some .right =>
    !ds.contains .left && (last.any fun d => d.turns || d = .number) &&
      !(ds.contains .number && ds.contains .arabicNumber)
  | some _ => false

/-- Whether a label is valid, apart from the order of its characters on a line. -/
def isLabel (label : List Char) : Bool := !label.head?.any isMark && joinersFit [] label

/-- Whether the labels of a host all keep their order, if one of them has letters from right to left. -/
def keepOrder (labels : List (List Char)) : Bool :=
  let turns (c : Char) : Bool := 0x80 ≤ c.toNat && (direction c).turns
  !labels.any (·.any turns) || labels.all keepsOrder

end DeckPress.Url
