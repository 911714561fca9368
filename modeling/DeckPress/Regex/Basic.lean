import DeckPress.Text.CharClass
import DeckPress.Text.CodeSet

/-!
# Regular expressions

An expression says what texts match it, and of two ways to match from one place it says which is
preferred: of a choice the first part, of a greedy repetition the longer one.
-/

namespace DeckPress

open Text

/-- A place in a text, by the characters on its two sides. -/
structure Gap where
  before : Option Char
  after : Option Char
  deriving DecidableEq, Repr

/-- The places at the edges of words. -/
inductive WordEdge where
  | boundary
  | noBoundary
  | start
  | stop
  | noWordBefore
  | noWordAfter
  deriving DecidableEq, Repr

/-- What is asked of a place without taking a character. -/
inductive Anchor where
  | textStart
  | textEnd
  /-- At the start of a line. If `anyEnd` holds, a carriage return ends a line, too. -/
  | lineStart (anyEnd : Bool)
  | lineEnd (anyEnd : Bool)
  /-- At the edge of a word. Unless `ascii` holds, the letters of any script make words. -/
  | word (edge : WordEdge) (ascii : Bool)
  deriving DecidableEq, Repr

/-- Whether a place is at an edge, from whether the characters around it are word characters. -/
def WordEdge.holds (before after : Bool) : WordEdge → Bool
  | .boundary => before != after
  | .noBoundary => before == after
  | .start => !before && after
  | .stop => before && !after
  | .noWordBefore => !before
  | .noWordAfter => !after

/-- Word characters, of ASCII alone or of any script. -/
def isWordIn (ascii : Bool) (c : Char) : Bool :=
  if ascii then isAsciiAlnum c || c = '_' else isWord c

/-- Whether a place is as asked. No line starts or ends between a carriage return and its line feed. -/
def Anchor.holds (g : Gap) : Anchor → Bool
  | .textStart => g.before.isNone
  | .textEnd => g.after.isNone
  | .lineStart false => g.before.all (· = '\n')
  | .lineEnd false => g.after.all (· = '\n')
  | .lineStart true =>
    g.before.all (· = '\n') || (g.before = some '\r' && g.after ≠ some '\n')
  | .lineEnd true =>
    g.after.all (· = '\r') || (g.after = some '\n' && g.before ≠ some '\r')
  | .word edge ascii => edge.holds (g.before.any (isWordIn ascii)) (g.after.any (isWordIn ascii))

/-- A regular expression. -/
inductive Regex where
  | nothing
  | oneOf (s : CodeRanges)
  | anchor (a : Anchor)
  | sequence (a b : Regex)
  | choice (a b : Regex)
  /-- At least `least` times, and at most `most` times if that is given; as often as possible, or as
  rarely. -/
  | repeated (r : Regex) (least : Nat) (most : Option Nat) (greedy : Bool)
  /-- A group, whose place in a match would be remembered. -/
  | group (r : Regex)
  deriving Inhabited

namespace Regex

/-- Whether an expression can match without taking a character. -/
def canBeEmpty : Regex → Bool
  | .nothing => true
  | .oneOf _ => false
  | .anchor _ => true
  | .sequence a b => a.canBeEmpty && b.canBeEmpty
  | .choice a b => a.canBeEmpty || b.canBeEmpty
  | .repeated r least _ _ => least = 0 || r.canBeEmpty
  | .group r => r.canBeEmpty

/-- Whether no part of an expression takes a character. -/
def isEmptyOnly : Regex → Bool
  | .nothing => true
  | .oneOf _ => false
  | .anchor _ => true
  | .sequence a b => a.isEmptyOnly && b.isEmptyOnly
  | .choice a b => a.isEmptyOnly && b.isEmptyOnly
  | .repeated r _ most _ => most.isSome && r.isEmptyOnly
  | .group r => r.isEmptyOnly

def sequenceOf : List Regex → Regex
  | [] => .nothing
  | [r] => r
  | r :: rs => .sequence r (sequenceOf rs)

/-- The choice between expressions, first one preferred. There is at least one. -/
def choiceOf : List Regex → Regex
  | [] => .nothing
  | [r] => r
  | r :: rs => .choice r (choiceOf rs)

/-- A repetition in its simplest form. What takes no character is matched at most once. -/
def repeatedOf (r : Regex) (least : Nat) (most : Option Nat) (greedy : Bool) : Regex :=
  let (least, most) := if r.isEmptyOnly then (min least 1, some (min 1 (most.getD 1))) else (least, most)
  if most = some 0 then .nothing
  else if least = 1 && most = some 1 then r
  else .repeated r least most greedy

end Regex

end DeckPress
