import DeckPress.Text.CodeRange
import DeckPress.Text.Table.Composition

/-!
# Composed text

Many characters can be written in two ways: as one character, or as a base and the marks on it. A text is
composed by taking all of its characters apart, putting the marks on each base in the order of their
classes, and then composing what can be composed. Two texts that read the same have one composed form.
-/

namespace DeckPress.Text

/-! ## Tables -/

/-- The two parts of characters. -/
def compositions : Thunk CodeMap := .mk fun _ => .ofHex compositionText

/-- The texts of characters that are never composed. -/
def decompositions : Thunk CodeMap := .mk fun _ => .ofHex decompositionText

/-- A number for two code points. -/
def pairKey (a b : Nat) : Nat := a * 0x200000 + b

/-- The characters for pairs of others. -/
def composites : Thunk CodeMap :=
  .mk fun _ =>
    let entries := compositions.get.entries.toList.filterMap fun (n, parts) =>
      match parts with
      | [a, b] => some (pairKey a.toNat b.toNat, [Char.ofNat n])
      | _ => none
    ⟨(entries.mergeSort fun e f => e.1 ≤ f.1).toArray⟩

/-- The marks of each class. -/
def combiningClasses : Thunk (List (Nat × CodeRanges)) :=
  .mk fun _ => combiningClassTable.map fun (k, codes) => (k, .ofHex codes)

/-- The class by which a mark is put in order; 0 for all that is no such mark. -/
def combiningClass (c : Char) : Nat :=
  if c.toNat < 0x300 then 0
  else ((combiningClasses.get.find? fun (_, codes) => codes.contains c.toNat).map (·.1)).getD 0

/-! ## Syllables of Hangul

A syllable has a leading consonant, a vowel, and a trailing consonant or none. The code points of the
syllables follow from those of their parts. -/

def leadingBase : Nat := 0x1100

def vowelBase : Nat := 0x1161

/-- One below the first trailing consonant. -/
def trailingBase : Nat := 0x11a7

def syllableBase : Nat := 0xac00

/-- The parts of a syllable. -/
def syllableParts? (c : Char) : Option (List Char) :=
  let n := c.toNat - syllableBase
  if c.toNat < syllableBase || 11172 ≤ n then none
  else
    let front := [Char.ofNat (leadingBase + n / 588), Char.ofNat (vowelBase + n % 588 / 28)]
    some (if n % 28 = 0 then front else front ++ [Char.ofNat (trailingBase + n % 28)])

/-- The syllable of a consonant and a vowel, or of a syllable without a trailing consonant and one. -/
def syllable? (a b : Char) : Option Char :=
  let leading := a.toNat - leadingBase
  let vowel := b.toNat - vowelBase
  let syllable := a.toNat - syllableBase
  let trailing := b.toNat - trailingBase
  if leadingBase ≤ a.toNat && leading < 19 && vowelBase ≤ b.toNat && vowel < 21 then
    some (Char.ofNat (syllableBase + (leading * 21 + vowel) * 28))
  else if syllableBase ≤ a.toNat && syllable < 11172 && syllable % 28 = 0 && trailingBase < b.toNat &&
      trailing < 28 then
    some (Char.ofNat (a.toNat + trailing))
  else none

/-! ## Taking apart and composing -/

/-- Takes a character apart. The first part of a composed character may be composed itself, at most twice
over. -/
def decomposed : Nat → Char → List Char
  | 0, c => [c]
  | fuel + 1, c =>
    if c.toNat < 0xc0 then [c]
    else
      match syllableParts? c, compositions.get.get? c.toNat, decompositions.get.get? c.toNat with
      | some parts, _, _ => parts
      | none, some (a :: parts), _ => decomposed fuel a ++ parts
      | none, _, some parts => parts
      | none, _, none => [c]

/-- Puts a character behind a text, which is given in reverse. A mark goes in front of the marks with a
greater class. -/
def placeMark (c : Char) : List Char → List Char
  | [] => [c]
  | d :: ds =>
    if combiningClass c ≠ 0 && combiningClass c < combiningClass d then d :: placeMark c ds
    else c :: d :: ds

/-- The text with all characters taken apart and all marks in order. -/
def decomposedText (s : List Char) : List Char :=
  ((s.flatMap (decomposed 4)).foldl (fun done c => placeMark c done) []).reverse

/-- The character for two others. -/
def compose? (a b : Char) : Option Char :=
  syllable? a b <|>
    match composites.get.get? (pairKey a.toNat b.toNat) with
    | some [c] => some c
    | _ => none

/-- Composes with a base what follows it. `marks` are those so far that could not be composed, last one
first. What stands between a character and its base blocks it, unless it has a smaller class. -/
def composeFrom (base : Char) (marks : List Char) : List Char → List Char
  | [] => base :: marks.reverse
  | c :: s =>
    let blocked := marks.head?.any fun d => combiningClass c ≤ combiningClass d
    match if blocked then none else compose? base c with
    | some composed => composeFrom composed marks s
    | none =>
      if combiningClass c = 0 then base :: marks.reverse ++ composeFrom c [] s
      else composeFrom base (c :: marks) s

/-- The composed form of a text. -/
def composed (s : List Char) : List Char :=
  if s.all fun c => c.toNat < 0xc0 then s
  else
    let s := decomposedText s
    let front := s.takeWhile fun c => combiningClass c ≠ 0
    match s.dropWhile fun c => combiningClass c ≠ 0 with
    | [] => front
    | base :: s => front ++ composeFrom base [] s

end DeckPress.Text
