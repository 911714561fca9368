import DeckPress.Regex.Basic

/-!
# Finding matches

A text is read from its end. At each place it is known for every character of the expression what comes
of it if it is taken: whether the rest of the expression matches behind it, and where the preferred match
ends. From this follows the same for the place in front. So all places together take time in proportion
to the length of the text, however the expression is nested.

A match that ends is told by what is left of the text behind it: `some n` stands for a match that leaves
`n` characters, `none` for no match.

A repetition does not go round twice at one place. What its body passes over without taking a character,
on the way from the last character taken to the end of the body, it does not pass over again.
-/

namespace DeckPress

open Text

namespace Regex

/-- An expression without counts, with the outcome behind each of its characters. -/
inductive Reader where
  | nothing
  | oneOf (s : CodeRanges) (behind : Option Nat)
  | anchor (a : Anchor)
  | sequence (a b : Reader)
  | choice (a b : Reader)
  /-- Once or more. -/
  | again (r : Reader) (greedy : Bool)
  /-- Any number of times, of what takes a character. -/
  | star (r : Reader) (greedy : Bool)

namespace Reader

/-- Whether an expression can match without taking a character. -/
def canBeEmpty : Reader → Bool
  | .nothing => true
  | .oneOf _ _ => false
  | .anchor _ => true
  | .sequence a b => a.canBeEmpty && b.canBeEmpty
  | .choice a b => a.canBeEmpty || b.canBeEmpty
  | .again r _ => r.canBeEmpty
  | .star _ _ => true

/-- Something or nothing, whichever is preferred. -/
def optional (greedy : Bool) (r : Reader) : Reader :=
  if greedy then .choice r .nothing else .choice .nothing r

/-- So many copies, one behind the other. -/
def copies (r : Reader) (n : Nat) : Reader :=
  if n = 0 then .nothing
  else if n = 1 then r
  else .sequence (copies r (n / 2)) (copies r (n - n / 2))
termination_by n

/-- At most so many copies, one behind the other. -/
def upTo (greedy : Bool) (r : Reader) : Nat → Reader
  | 0 => .nothing
  | 1 => optional greedy r
  | n + 1 => optional greedy (.sequence r (upTo greedy r n))

/-- A repetition that is counted. -/
def times (r : Reader) (least : Nat) (most : Option Nat) (greedy : Bool) : Reader :=
  match least, most with
  | 0, none => if r.canBeEmpty then optional greedy (.again r greedy) else .star r greedy
  | 1, none => .again r greedy
  | n + 1, none => .sequence (copies r n) (.again r greedy)
  | 0, some most => upTo greedy r most
  | least, some most =>
    if most ≤ least then copies r least else .sequence (copies r least) (upTo greedy r (most - least))

/-- What comes of taking one character. -/
def take (g : Gap) (s : CodeRanges) (behind : Option Nat) : Option Nat :=
  if g.after.any fun c => s.contains c.toNat then behind else none

/-- Going round once more, or on. -/
def roundOr (greedy : Bool) (round next : Option Nat) : Option Nat :=
  if greedy then round <|> next else next <|> round

/-- The outcome at a place, where `next` is the outcome behind the expression at the same place. -/
def outcome (g : Gap) : Reader → Option Nat → Option Nat
  | .nothing, next => next
  | .oneOf s behind, _ => take g s behind
  | .anchor a, next => if a.holds g then next else none
  | .sequence a b, next => a.outcome g (b.outcome g next)
  | .choice a b, next => a.outcome g next <|> b.outcome g next
  | .again r _, next => r.outcome g next
  | .star r greedy, next => roundOr greedy (r.outcome g none) next

/-- Moves an expression in front of a place, inside of a repetition whose body can be empty. `next` gives
the outcome behind the expression from that of going round to the expression again: there what stands
behind it, which has been passed over, does not count. -/
def moveInside (g : Gap) : Reader → (Option Nat → Option Nat) → Reader
  | .nothing, _ => .nothing
  | .oneOf s behind, next => .oneOf s (next (take g s behind))
  | .anchor a, _ => .anchor a
  | .sequence a b, next =>
    .sequence (a.moveInside g fun round => b.outcome g (next round))
      (b.moveInside g fun round => next (a.outcome g round))
  | .choice a b, next =>
    .choice (a.moveInside g fun round => next (round <|> b.outcome g none))
      (b.moveInside g fun round => next (a.outcome g none <|> round))
  | .again r greedy, next =>
    .again (r.moveInside g fun round =>
      roundOr greedy round (next (if greedy then none else round))) greedy
  | .star r greedy, next => .star (r.moveInside g fun round => roundOr greedy round (next none)) greedy

/-- Moves an expression in front of a place, where `next` is the outcome behind it, and gives the outcome
at the place. -/
def move (g : Gap) : Reader → Option Nat → Reader × Option Nat
  | .nothing, next => (.nothing, next)
  | .oneOf s behind, next => (.oneOf s next, take g s behind)
  | .anchor a, next => (.anchor a, if a.holds g then next else none)
  | .sequence a b, next =>
    let (b, next) := b.move g next
    let (a, next) := a.move g next
    (.sequence a b, next)
  | .choice a b, next =>
    let (a, first) := a.move g next
    let (b, second) := b.move g next
    (.choice a b, first <|> second)
  | .again r greedy, next =>
    if r.canBeEmpty then
      (.again (r.moveInside g fun round => roundOr greedy round next) greedy, r.outcome g next)
    else
      let round := r.outcome g none
      (.again (r.move g (roundOr greedy round next)).1 greedy, round)
  | .star r greedy, next =>
    let here := roundOr greedy (r.outcome g none) next
    (.star (r.move g here).1 greedy, here)

end Reader

/-- An expression in front of the end of a text, where no character is left to take. -/
def reader : Regex → Reader
  | .nothing => .nothing
  | .oneOf s => .oneOf s none
  | .anchor a => .anchor a
  | .sequence a b => .sequence a.reader b.reader
  | .choice a b => .choice a.reader b.reader
  | .repeated r least most greedy => r.reader.times least most greedy
  | .group r => r.reader

/-- The places of a text, each with the number of characters behind it. -/
def gaps (s : List Char) : List (Gap × Nat) :=
  (List.zipWith Gap.mk (none :: s.map some) (s.map some ++ [none])).zip
    (List.range (s.length + 1)).reverse

/-- For each place of a text the length of the preferred match there, if there is a match. -/
def matchLengths (r : Regex) (s : List Char) : List (Option Nat) :=
  ((gaps s).foldr (fun (g, left) (r, later) =>
    let (r, end?) := r.move g (some left)
    (r, end?.map (left - ·) :: later)) (r.reader, [])).2

end Regex

/-- A piece of a text: a character that no match takes, or a match. -/
inductive Piece where
  | kept (c : Char)
  | found (text : List Char)
  deriving DecidableEq, Repr

namespace Piece

def text : Piece → List Char
  | .kept c => [c]
  | .found text => text

def found? : Piece → Option (List Char)
  | .kept _ => none
  | .found text => some text

/-- The text with an image in place of a match. -/
def replaced (image : List Char → List Char) : Piece → List Char
  | .kept c => [c]
  | .found text => image text

end Piece

namespace Regex

/-- Takes a text apart by the lengths of the matches at its places. `inside` is the number of characters
that still belong to the match before; if there are none, `atEnd` says whether a match ends here. Where one
ends, an empty match does not count. -/
def cut : Nat → Bool → List Char → List (Option Nat) → List Piece
  | inside + 1, _, _ :: s, _ :: lengths => cut inside true s lengths
  | 0, _, c :: s, none :: lengths => .kept c :: cut 0 false s lengths
  | 0, atEnd, c :: s, some 0 :: lengths =>
    if atEnd then .kept c :: cut 0 false s lengths else .found [] :: .kept c :: cut 0 false s lengths
  | 0, _, c :: s, some (n + 1) :: lengths => .found (c :: s.take n) :: cut n true s lengths
  | 0, false, [], some _ :: _ => [.found []]
  | _, _, _, _ => []

/-- Takes a text apart at all matches, from left to right and without overlap. -/
def pieces (r : Regex) (s : List Char) : List Piece := cut 0 false s (r.matchLengths s)

end Regex

end DeckPress
