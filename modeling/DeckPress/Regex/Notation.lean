import DeckPress.Regex.Property

/-!
# The notation of regular expressions

What is written, before flags give it a meaning: sets in brackets, groups, choices, repetitions greedy and
not, assertions about a place, and flags that hold up to the end of their group. There are no references
to groups and no looking ahead or behind.

How deep an expression is nested is limited, so its depth is counted here.
-/

namespace DeckPress.Regex

/-- What can be switched on and off inside an expression. -/
inductive Flag where
  | anyCase
  | multiLine
  | dotAll
  | swapGreed
  | unicode
  /-- A carriage return ends a line, too. -/
  | anyLineEnd
  /-- Blanks and comments do not count. -/
  | spaced
  deriving DecidableEq, Repr

/-- Flags, each switched on or off. -/
abbrev FlagSettings := List (Flag × Bool)

/-- A character, however it was written. -/
structure Literal where
  char : Char
  /-- Whether it was written as a byte, with two hexadecimal digits. -/
  isByte : Bool := false
  deriving DecidableEq, Repr

/-- The classes that have a letter. -/
inductive LetterClass where
  | digit
  | white
  | word
  deriving DecidableEq, Repr

/-- The named classes of ASCII characters. -/
inductive AsciiClass where
  | alnum
  | alpha
  | ascii
  | blank
  | cntrl
  | digit
  | graph
  | lower
  | print
  | punct
  | space
  | upper
  | word
  | xdigit
  deriving DecidableEq, Repr

/-- The ways to combine two sets in brackets. -/
inductive SetOperation where
  | meet
  | minus
  | differ
  deriving DecidableEq, Repr

/-- A set as it is written. -/
inductive SetNotation where
  | chars (first last : Literal)
  | named (c : AsciiClass) (negated : Bool)
  | letter (c : LetterClass) (negated : Bool)
  | property (query : PropertyQuery) (negated : Bool)
  | union (items : List SetNotation)
  | combined (operation : SetOperation) (left right : SetNotation)
  | bracketed (inner : SetNotation) (negated : Bool)
  deriving Repr, Inhabited

/-- What can be asserted of a place, as it is written. -/
inductive Assertion where
  | lineStart
  | lineEnd
  | textStart
  | textEnd
  | wordBoundary
  | noWordBoundary
  | wordStart
  | wordEnd
  | noWordBefore
  | noWordAfter
  deriving DecidableEq, Repr

/-- What a group is for. -/
inductive GroupKind where
  | captured (name : Option (List Char))
  | flagged (settings : FlagSettings)
  deriving DecidableEq, Repr

/-- An expression as it is written. A sequence or a choice has two parts or more. -/
inductive Notation where
  | nothing
  | flags (settings : FlagSettings)
  | literal (l : Literal)
  | dot
  | assertion (a : Assertion)
  | set (s : SetNotation)
  | repeated (inner : Notation) (least : Nat) (most : Option Nat) (greedy : Bool)
  | group (kind : GroupKind) (inner : Notation)
  | sequence (parts : List Notation)
  | choice (parts : List Notation)
  deriving Repr, Inhabited

/-- Items side by side; one alone stands for itself. -/
def SetNotation.ofItems : List SetNotation → SetNotation
  | [item] => item
  | items => .union items

namespace Notation

def ofParts : List Notation → Notation
  | [] => .nothing
  | [part] => part
  | parts => .sequence parts

def ofChoices : List Notation → Notation
  | [part] => part
  | parts => .choice parts

end Notation

mutual

/-- How deep a set is nested. -/
def SetNotation.depth : SetNotation → Nat
  | .union items => SetNotation.depthOfItems items
  | .combined _ left right => max left.depth right.depth + 1
  | .bracketed inner _ => inner.depth + 1
  | _ => 0

/-- How deep sets side by side are nested. -/
def SetNotation.depthOfItems : List SetNotation → Nat
  | [] => 0
  | item :: items => max (item.depth + 1) (SetNotation.depthOfItems items)

end

mutual

/-- How deep an expression is nested. -/
def Notation.depth : Notation → Nat
  | .set s => s.depth
  | .repeated inner .. => inner.depth + 1
  | .group _ inner => inner.depth + 1
  | .sequence parts => Notation.depthOfParts parts + 1
  | .choice parts => Notation.depthOfParts parts + 1
  | _ => 0

/-- The depth of the deepest part. -/
def Notation.depthOfParts : List Notation → Nat
  | [] => 0
  | part :: parts => max part.depth (Notation.depthOfParts parts)

end

mutual

/-- The names of the groups in an expression. -/
def Notation.groupNames : Notation → List (List Char)
  | .repeated inner .. => inner.groupNames
  | .group (.captured (some name)) inner => name :: inner.groupNames
  | .group _ inner => inner.groupNames
  | .sequence parts => Notation.groupNamesOfParts parts
  | .choice parts => Notation.groupNamesOfParts parts
  | _ => []

def Notation.groupNamesOfParts : List Notation → List (List Char)
  | [] => []
  | part :: parts => part.groupNames ++ Notation.groupNamesOfParts parts

end

/-- How deep an expression may be nested. -/
def maxDepth : Nat := 250

/-- Whether an expression is not nested too deep, and no two of its groups have one name. -/
def Notation.isWellFormed (n : Notation) : Bool :=
  n.depth ≤ maxDepth && n.groupNames.eraseDups.length = n.groupNames.length

end DeckPress.Regex
