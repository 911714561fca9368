import DeckPress.Regex.Basic
import DeckPress.Regex.Meaning
import DeckPress.Regex.Parser

/-!
# Regular expressions from text

A text is a regular expression if it keeps to the notation, means something and does not get too heavy.
-/

namespace DeckPress.Regex

open Text

/-! ## The weight of an expression

Expressions are limited in size. The weight of an expression is what an automaton for it would take that
runs over bytes: a state for each byte, assertion and branch, where a repetition that is counted has as
many copies of its body as it may be matched times. The weight is computed without making the copies.
-/

/-- What a state takes. -/
def stateWeight : Nat := 32

/-- What a branch takes. -/
def branchWeight : Nat := 4

/-- A range of numbers with so many digits to the base 64, as sequences of ranges of digits. All
combinations of the digits in a sequence are in the range. -/
def digitRanges : Nat → Nat → Nat → List (List (Nat × Nat))
  | 0, first, last => [[(first, last)]]
  | n + 1, first, last =>
    let block := Nat.pow 64 (n + 1)
    let under (digit first last : Nat) : List (List (Nat × Nat)) :=
      (digitRanges n first last).map ((digit, digit) :: ·)
    let a := first / block
    let b := last / block
    if a = b then under a (first % block) (last % block)
    else
      let front := if first % block = 0 then [] else under a (first % block) (block - 1)
      let back := if last % block = block - 1 then [] else under b 0 (last % block)
      let a := if front.isEmpty then a else a + 1
      let b := if back.isEmpty then b else b - 1
      let full := if a ≤ b then (digitRanges n 0 (block - 1)).map ((a, b) :: ·) else []
      front ++ full ++ back

/-- The code points that are written with the same number of bytes: how many digits follow the first byte,
and the first and the last code point. -/
def byteLengths : List (Nat × Nat × Nat) :=
  [(0, 0, 0x7f), (1, 0x80, 0x7ff), (2, 0x800, 0xd7ff), (2, 0xe000, 0xffff), (3, 0x10000, 0x10ffff)]

/-- A set as sequences of ranges of bytes, in ascending order. -/
def byteSequences (s : CodeRanges) : List (List (Nat × Nat)) :=
  s.toList.flatMap fun (first, last) =>
    byteLengths.flatMap fun (digits, low, high) =>
      if first ≤ high && low ≤ last then digitRanges digits (max first low) (min last high) else []

/-- How many ranges of bytes sequences have, where a sequence shares with the one before it what both
start with. -/
def countUnshared (before : List (Nat × Nat)) : List (List (Nat × Nat)) → Nat
  | [] => 0
  | s :: ss =>
    let shared := ((before.zip s).takeWhile fun (a, b) => a = b).length
    s.length - shared + countUnshared s ss

/-- What one character of a set takes. -/
def setWeight (s : CodeRanges) : Nat :=
  match s.toList with
  | [] => stateWeight
  | [(first, last)] =>
    if first = last then stateWeight * (Char.ofNat first).utf8Size
    else if s.isAscii then 2 * stateWeight + 2 * branchWeight
    else manyWeight
  | ranges => if s.isAscii then 2 * stateWeight + 2 * branchWeight * ranges.length else manyWeight
where
  manyWeight : Nat :=
    let sequences := byteSequences s
    stateWeight * (countUnshared [] sequences + 2) + branchWeight * sequences.length

/-- The weight of an expression, by itself or as a part of a choice. Choices in choices are one. -/
def weightIn (inChoice : Bool) : Regex → Nat
  | .nothing => branch + stateWeight
  | .oneOf s => branch + setWeight s
  | .anchor _ => branch + stateWeight
  | .sequence a b => branch + a.weightIn false + b.weightIn false
  | .choice a b => (if inChoice then 0 else 2 * stateWeight) + a.weightIn true + b.weightIn true
  | .repeated r least most _ =>
    let fork := stateWeight + 2 * branchWeight
    let body := r.weightIn false
    branch + match most with
    | none =>
      if least = 0 then if r.canBeEmpty then body + 2 * fork + stateWeight else body + fork
      else least * body + fork
    | some most =>
      if least = most then least * body
      else least * body + (most - least) * (fork + body) + stateWeight
  | .group r => branch + r.weightIn false + 2 * stateWeight
where
  branch : Nat := if inChoice then branchWeight else 0

/-- The weight of an expression. -/
def weight (r : Regex) : Nat := r.weightIn false

/-- The weight that an expression may have. -/
def maxWeight : Nat := 10 * 1024 * 1024

/-! ## Reading -/

/-- Reads a regular expression; none if the text is not one. -/
def ofText? (text : String) : Option Regex := do
  let n ← Notation.parse? text
  let (r, _) ← n.meaning? {}
  if r.weight ≤ maxWeight then some r else none

end DeckPress.Regex
