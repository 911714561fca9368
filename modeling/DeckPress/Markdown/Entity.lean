import DeckPress.Markdown.Cursor
import DeckPress.Markdown.EntityTable
import DeckPress.Text.CodeRange

/-!
# Character references and backslash escapes

`&name;`, `&#10;` and `&#xa;` stand for characters. A number that is no character, or zero, stands for the
replacement character. A backslash before a punctuation sign of ASCII stands for the sign.
-/

namespace DeckPress.Markdown

open Text

/-- The named references with the texts they stand for. -/
def entities : List (List Char × List Char) :=
  (tableFields entityTable.toList).filterMap fun f =>
    match splitOn (· = ':') f with
    | [name, image] => some (name, (splitOn (· = '+') image).map fun h => Char.ofNat (hexValue h))
    | _ => none

/-- The character with a number. -/
def referencedChar (n : Nat) : Char :=
  if n = 0 || (0xd800 ≤ n && n ≤ 0xe000) || 0x110000 ≤ n then Char.ofNat 0xfffd else Char.ofNat n

/-- A numeric reference behind its hash sign, with at most eight digits. -/
def numericEntity? (base : Nat) (isDigit : Char → Bool) (s : List Char) :
    Option (List Char × List Char) :=
  let digits := s.takeWhile isDigit
  match s.dropWhile isDigit with
  | ';' :: rest =>
    if digits.isEmpty || 8 < digits.length then none
    else
      let n := digits.foldl (fun n c => n * base + (hexDigit? c).getD 0) 0
      some ([referencedChar n], rest)
  | _ => none

/-- A named reference behind its ampersand. -/
def namedEntity? (s : List Char) : Option (List Char × List Char) :=
  let name := (s.take 32).takeWhile fun c => c ≠ ';' && c ≠ ' '
  match s.drop name.length with
  | ';' :: rest => (entities.lookup name).map fun image => (image, rest)
  | _ => none

/-- The text that a reference behind an ampersand stands for, and what follows the reference. -/
def entity? (s : List Char) : Option (List Char × List Char) :=
  match s with
  | '#' :: 'x' :: rest => numericEntity? 16 isHexDigit rest
  | '#' :: 'X' :: rest => numericEntity? 16 isHexDigit rest
  | '#' :: rest => numericEntity? 10 isAsciiDigit rest
  | _ => namedEntity? s

/-- Replaces all references in a text. -/
def replaceEntities (s : List Char) : List Char := go s.length s
where
  /-- Every step uses up a character, so `fuel` is the length of the text. -/
  go : Nat → List Char → List Char
    | _, [] => []
    | 0, s => s
    | fuel + 1, '&' :: rest =>
      match entity? rest with
      | some (image, rest) => image ++ go fuel rest
      | none => '&' :: go fuel rest
    | fuel + 1, c :: rest => c :: go fuel rest

/-- Drops the backslash in front of every punctuation sign. -/
def dropEscapes : List Char → List Char
  | '\\' :: c :: rest => if isAsciiPunctuation c then c :: dropEscapes rest else '\\' :: dropEscapes (c :: rest)
  | c :: rest => c :: dropEscapes rest
  | [] => []

end DeckPress.Markdown
