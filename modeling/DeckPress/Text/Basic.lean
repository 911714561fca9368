import DeckPress.Text.CharClass

/-!
# Text as a list of characters

The scanners of this library run over `List Char`: what has been read is a list, what is left is a
list, and a step is a pattern match. This module holds the operations they share: prefixes, first
occurrences, replacement, lines and trimming.
-/

namespace DeckPress.Text

/-- What follows a given beginning. -/
def stripPrefix? : List Char → List Char → Option (List Char)
  | [], s => some s
  | _ :: _, [] => none
  | p :: ps, c :: cs => if p = c then stripPrefix? ps cs else none

/-- What stands before a given ending. -/
def stripSuffix? (ending s : List Char) : Option (List Char) :=
  (stripPrefix? ending.reverse s.reverse).map List.reverse

def startsWith (beginning s : List Char) : Bool := (stripPrefix? beginning s).isSome

/-- The text before and the text after the first occurrence of `needle`. -/
def splitAt? (needle : List Char) : List Char → Option (List Char × List Char)
  | [] => (stripPrefix? needle []).map fun r => ([], r)
  | c :: cs =>
    match stripPrefix? needle (c :: cs) with
    | some r => some ([], r)
    | none => (splitAt? needle cs).map fun (a, b) => (c :: a, b)

/-- The text before and the text after the last occurrence of `needle`. -/
def splitAtLast? (needle s : List Char) : Option (List Char × List Char) :=
  (splitAt? needle.reverse s.reverse).map fun (b, a) => (a.reverse, b.reverse)

def containsText (needle s : List Char) : Bool := (splitAt? needle s).isSome

/-- Skips `skip` characters, then writes `image` for every occurrence of `needle`, left to right and
without overlap. -/
def replaceFrom (needle image : List Char) : Nat → List Char → List Char
  | _, [] => []
  | skip + 1, _ :: cs => replaceFrom needle image skip cs
  | 0, c :: cs =>
    if startsWith needle (c :: cs) then image ++ replaceFrom needle image (needle.length - 1) cs
    else c :: replaceFrom needle image 0 cs

/-- Writes `image` for every occurrence of a non-empty `needle`. -/
def replaceAll (needle image s : List Char) : List Char := replaceFrom needle image 0 s

/-- Puts a character at the front of the first line. -/
def consLine (c : Char) : List (List Char) → List (List Char)
  | [] => [[c]]
  | l :: ls => (c :: l) :: ls

/-- The lines of a text, without their ends. A line ends in a line feed, which a carriage return may
precede; the last line needs no end. -/
def lines : List Char → List (List Char)
  | [] => []
  | '\n' :: cs => [] :: lines cs
  | '\r' :: '\n' :: cs => [] :: lines cs
  | c :: cs => consLine c (lines cs)

/-- The pieces with a separator between them. -/
def joinWith (separator : List Char) : List (List Char) → List Char
  | [] => []
  | [l] => l
  | l :: ls => l ++ separator ++ joinWith separator ls

def joinLines (ls : List (List Char)) : List Char := joinWith ['\n'] ls

def dropEndWhile (p : Char → Bool) (s : List Char) : List Char :=
  (s.reverse.dropWhile p).reverse

def trimStart (s : List Char) : List Char := s.dropWhile isWhite

def trimEnd (s : List Char) : List Char := dropEndWhile isWhite s

def trim (s : List Char) : List Char := trimEnd (trimStart s)

/-- Only white space, or nothing. -/
def isBlank (s : List Char) : Bool := s.all isWhite

/-- The maximal runs of characters that are not white space. -/
def words (s : List Char) : List (List Char) :=
  (splitOn isWhite s).filter (!·.isEmpty)

/-- The number of bytes of a text in UTF-8. -/
def utf8Length (s : List Char) : Nat := s.foldl (fun n c => n + c.utf8Size) 0

end DeckPress.Text
