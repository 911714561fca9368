import DeckPress.Text.Basic

/-!
# Glob patterns

A question mark stands for any character, an asterisk for any run of characters, slashes included, and
brackets for a class. Two asterisks are a component of their own and stand for any number of whole
components. No other runs of asterisks are patterns.
-/

namespace DeckPress.Glob

/-- A range of characters in brackets. -/
structure ClassRange where
  first : Char
  last : Char
  deriving DecidableEq, Repr

/-- The parts of a pattern. -/
inductive Part where
  | char (c : Char)
  | anyChar
  | anyRun
  | anyComponents
  | oneOf (ranges : List ClassRange)
  | noneOf (ranges : List ClassRange)
  deriving DecidableEq, Repr

/-- A pattern as written, and its parts. -/
structure Pattern where
  text : String
  parts : List Part
  deriving Repr

/-- The ranges between brackets. -/
def classRanges : List Char → List ClassRange
  | a :: '-' :: b :: rest => ⟨a, b⟩ :: classRanges rest
  | a :: rest => ⟨a, a⟩ :: classRanges rest
  | [] => []

/-- The text up to a closing bracket and what follows the bracket. The first character does not close
the class. -/
def splitClass? : List Char → Option (List Char × List Char)
  | c :: rest => (Text.splitAt? [']'] rest).map fun (cs, rest) => (c :: cs, rest)
  | [] => none

/-- Reads a pattern. `atStart` holds at the start of a component, `before` are the parts so far, last
one first. -/
def readParts? : Nat → Bool → List Part → List Char → Option (List Part)
  | 0, _, _, _ => none
  | _ + 1, _, before, [] => some before.reverse
  | fuel + 1, atStart, before, c :: rest =>
    if c = '?' then readParts? fuel false (.anyChar :: before) rest
    else if c = '*' then
      match rest with
      | '*' :: '*' :: _ => none
      | '*' :: rest =>
        if !atStart then none
        else
          let before' := match before with
            | .anyComponents :: _ :: _ => before
            | _ => .anyComponents :: before
          match rest with
          | [] => readParts? fuel false before' []
          | '/' :: rest => readParts? fuel true before' rest
          | _ => none
      | _ => readParts? fuel false (.anyRun :: before) rest
    else if c = '[' then
      match rest with
      | '!' :: body =>
        match splitClass? body with
        | some (cs, rest) => readParts? fuel false (.noneOf (classRanges cs) :: before) rest
        | none => none
      | body =>
        match splitClass? body with
        | some (cs, rest) => readParts? fuel false (.oneOf (classRanges cs) :: before) rest
        | none => none
    else readParts? fuel (c = '/') (.char c :: before) rest

/-- Reads a pattern; none if the text is not one. -/
def Pattern.parse? (s : String) : Option Pattern :=
  let cs := s.toList
  (readParts? (cs.length + 1) true [] cs).map fun parts => ⟨s, parts⟩

/-- Whether the pattern is the one for any number of components. -/
def Pattern.isRecursive (p : Pattern) : Bool := p.parts.contains .anyComponents

/-- The one character a part stands for. -/
def Part.literal? : Part → Option Char
  | .char c => some c
  | _ => none

/-- The text a pattern without special parts stands for. -/
def Pattern.literal? (p : Pattern) : Option String := (p.parts.mapM Part.literal?).map String.ofList

def ClassRange.contains (r : ClassRange) (c : Char) : Bool := r.first ≤ c && c ≤ r.last

/-- Whether a part that stands for one character stands for `c`. -/
def Part.accepts : Part → Char → Bool
  | .char d, c => c = d
  | .anyChar, _ => true
  | .oneOf rs, c => rs.any (·.contains c)
  | .noneOf rs, c => !rs.any (·.contains c)
  | _, _ => false

/-! ## Comparing

A text with `n` characters has `n + 1` places, before and behind its characters. Beginnings of a pattern
lead to some of them; a flag for each place tells to which. -/

/-- The places that one character further leads to. -/
def placesBehindChar (p : Part) : List Char → List Bool → List Bool
  | c :: cs, b :: bs => (b && p.accepts c) :: placesBehindChar p cs bs
  | _, _ => []

/-- The places that any number of characters further leads to. `met` tells whether a place before was led
to. -/
def placesBehindRun (met : Bool) : List Bool → List Bool
  | [] => []
  | b :: bs => (met || b) :: placesBehindRun (met || b) bs

/-- The places that any number of components further leads to: those there are, and behind them the starts
of components and the end of the text. -/
def placesBehindComponents (met atStart : Bool) : List Char → List Bool → List Bool
  | c :: cs, b :: bs => (b || (atStart && met)) :: placesBehindComponents (met || b) (c = '/') cs bs
  | _, b :: _ => [met || b]
  | _, [] => []

/-- The places that one part further leads to. -/
def Part.advance (s : List Char) (places : List Bool) : Part → List Bool
  | .anyRun => placesBehindRun false places
  | .anyComponents => placesBehindComponents false false s places
  | p => false :: placesBehindChar p s places

/-- Whether the parts stand for a text. -/
def matchParts (parts : List Part) (s : List Char) : Bool :=
  (parts.foldl (Part.advance s) (true :: s.map fun _ => false)).getLastD false

/-- Whether the pattern stands for a text. -/
def Pattern.accepts (p : Pattern) (s : String) : Bool := matchParts p.parts s.toList

/-- A pattern that stands for one text only. -/
def escape (s : String) : String :=
  String.ofList (s.toList.flatMap fun c =>
    if ['?', '*', '[', ']'].contains c then ['[', c, ']'] else [c])

end DeckPress.Glob
