import DeckPress.Text.Basic

/-!
# Labels in ASCII

A label of a host that is not ASCII can be written in ASCII: first come the ASCII characters that it
has, then, behind a hyphen, numbers that say where which other characters stand among them. The other
characters come in ascending order. Each number is the distance from the place before it, counted through
all places and all characters, and is written with the least digit first; how far a number goes on
depends on how large the numbers before it were.
-/

namespace DeckPress.Url.Punycode

open Text

/-- The value of a digit. Letters come first. -/
def digit? (c : Char) : Option Nat :=
  if isAsciiLower c then some (c.toNat - 'a'.toNat)
  else if isAsciiDigit c then some (c.toNat - '0'.toNat + 26)
  else none

/-- The least value of a digit that does not end a number, at a position of the number. -/
def threshold (position bias : Nat) : Nat :=
  if position ≤ bias then 1 else if bias + 26 ≤ position then 26 else position - bias

/-- Divides by 35 while a distance is large, and counts 36 for each time. -/
def shrink (distance count : Nat) : Nat × Nat :=
  if 455 < distance then shrink (distance / 35) (count + 36) else (distance, count)
termination_by distance

/-- The bias of the next number, from a distance and the number of characters so far. -/
def nextBias (distance count : Nat) (isFirst : Bool) : Nat :=
  let distance := if isFirst then distance / 700 else distance / 2
  let (distance, passed) := shrink (distance + distance / count) 0
  passed + 36 * distance / (distance + 38)

/-- Numbers are below this bound. -/
def bound : Nat := Nat.pow 2 32

/-- Reads a number and adds it to `sum`, and gives what follows. -/
def readNumber? (bias : Nat) : List Char → Nat → Nat → Nat → Option (Nat × List Char)
  | [], _, _, _ => none
  | c :: rest, position, weight, sum =>
    match digit? c with
    | none => none
    | some d =>
      let sum := sum + d * weight
      let least := threshold position bias
      if bound ≤ sum || bound ≤ weight then none
      else if d < least then some (sum, rest)
      else readNumber? bias rest (position + 36) (weight * (36 - least)) sum

theorem length_lt_of_readNumber? (bias : Nat) :
    ∀ (s : List Char) (position weight sum : Nat) (r : Nat × List Char),
      readNumber? bias s position weight sum = some r → r.2.length < s.length
  | [], _, _, _, _, h => by simp [readNumber?] at h
  | c :: rest, position, weight, sum, r, h => by
    rw [readNumber?] at h
    split at h
    · simp at h
    · dsimp only at h
      split at h
      · simp at h
      · split at h
        · rw [← Option.some.inj h]; simp
        · have := length_lt_of_readNumber? bias rest _ _ _ r h
          simp only [List.length_cons]; omega

/-- Puts the characters that are not ASCII into a text. `place` is where the search for the next place
starts, and `code` the last character. -/
def insertAll? (bias code place : Nat) (text : List Char) : List Char → Option (List Char)
  | [] => some text
  | c :: rest =>
    match h : readNumber? bias (c :: rest) 36 1 place with
    | none => none
    | some (sum, rest') =>
      have : rest'.length < (c :: rest).length := length_lt_of_readNumber? bias _ _ _ _ _ h
      let count := text.length + 1
      let code := code + sum / count
      if code.isValidChar then
        insertAll? (nextBias (sum - place) count (place = 0)) code (sum % count + 1)
          (text.insertIdx (sum % count) (Char.ofNat code)) rest'
      else none
termination_by s => s.length
decreasing_by exact this

/-- The label that is written in ASCII; none if nothing is written so. A hyphen that comes first belongs
to the numbers, which have none. -/
def decode? (s : List Char) : Option (List Char) :=
  match splitAtLast? ['-'] s with
  | some (c :: text, numbers) => insertAll? 72 0x80 0 (c :: text) numbers
  | _ => insertAll? 72 0x80 0 [] s

end DeckPress.Url.Punycode
