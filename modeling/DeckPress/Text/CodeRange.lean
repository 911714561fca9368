/-!
# Tables of code points

Character properties come as long lists of code points. A table is written as text, in
hexadecimal, and read once into an array that is searched by halving.

`CodeRanges` is a set of code points in ascending ranges, `CodeMap` sends single code points to
short texts.
-/

namespace DeckPress.Text

/-- The value of a hexadecimal digit. -/
def hexDigit? (c : Char) : Option Nat :=
  if '0' ≤ c ∧ c ≤ '9' then some (c.toNat - '0'.toNat)
  else if 'a' ≤ c ∧ c ≤ 'f' then some (c.toNat - 'a'.toNat + 10)
  else if 'A' ≤ c ∧ c ≤ 'F' then some (c.toNat - 'A'.toNat + 10)
  else none

/-- Reads hexadecimal digits, skipping everything else. -/
def hexValue (s : List Char) : Nat :=
  s.foldl (fun n c => match hexDigit? c with
    | some d => n * 16 + d
    | none => n) 0

/-- The pieces of a text between the characters that satisfy `p`, empty ones included. -/
def splitOn (p : Char → Bool) : List Char → List (List Char)
  | [] => [[]]
  | c :: cs =>
    if p c then [] :: splitOn p cs
    else match splitOn p cs with
      | [] => [[c]]
      | w :: ws => (c :: w) :: ws

/-- The fields of a table text. -/
def tableFields (s : List Char) : List (List Char) :=
  (splitOn (fun c => c = ' ' || c = '\n') s).filter (!·.isEmpty)

/-- Ascending, disjoint ranges of code points, both ends included. -/
structure CodeRanges where
  ranges : Array (Nat × Nat)

/-- A range is two code points joined by a minus sign, or one code point. -/
def CodeRanges.ofHex (s : String) : CodeRanges :=
  ⟨((tableFields s.toList).map fun f =>
    match splitOn (· = '-') f with
    | [a, b] => (hexValue a, hexValue b)
    | _ => (hexValue f, hexValue f)).toArray⟩

/-- Halving search for the range that holds `n`, between the indices `lo` and `hi`. -/
def CodeRanges.search (t : CodeRanges) (n : Nat) : Nat → Nat → Nat → Bool
  | 0, _, _ => false
  | fuel + 1, lo, hi =>
    if lo < hi then
      let mid := (lo + hi) / 2
      match t.ranges[mid]? with
      | none => false
      | some (a, b) =>
        if n < a then t.search n fuel lo mid
        else if b < n then t.search n fuel (mid + 1) hi
        else true
    else false

/-- Whether a code point lies in one of the ranges. -/
def CodeRanges.contains (t : CodeRanges) (n : Nat) : Bool :=
  t.search n (t.ranges.size + 1) 0 t.ranges.size

/-- Code points with the texts they map to, ascending. -/
structure CodeMap where
  entries : Array (Nat × List Char)

/-- The entries of a table text. An entry is a code point, a colon, and code points joined by plus signs. -/
def CodeMap.readEntries (s : List Char) : List (Nat × List Char) :=
  (tableFields s).filterMap fun f =>
    match splitOn (· = ':') f with
    | [a, b] => some (hexValue a, (splitOn (· = '+') b).map fun h => Char.ofNat (hexValue h))
    | _ => none

def CodeMap.ofHex (s : String) : CodeMap := ⟨(readEntries s.toList).toArray⟩

/-- A table of several texts, which can be looked at one by one. -/
def CodeMap.ofLines (lines : List String) : CodeMap := ⟨(lines.flatMap fun l => readEntries l.toList).toArray⟩

/-- Halving search for the entry of `n`, between the indices `lo` and `hi`. -/
def CodeMap.search (t : CodeMap) (n : Nat) : Nat → Nat → Nat → Option (List Char)
  | 0, _, _ => none
  | fuel + 1, lo, hi =>
    if lo < hi then
      let mid := (lo + hi) / 2
      match t.entries[mid]? with
      | none => none
      | some (a, image) =>
        if n < a then t.search n fuel lo mid
        else if a < n then t.search n fuel (mid + 1) hi
        else some image
    else none

/-- The text that a code point maps to, if the table has one. -/
def CodeMap.get? (t : CodeMap) (n : Nat) : Option (List Char) :=
  t.search n (t.entries.size + 1) 0 t.entries.size

end DeckPress.Text
