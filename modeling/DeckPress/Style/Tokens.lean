import DeckPress.Style.Rule

/-!
# Utility classes in use

A file uses the utility classes that its class attributes name. Attributes are found in the text by
their form alone: the word `class` or `className`, an equals sign, and a value in quotes. What a value
names is a token only if there is a rule for it.
-/

namespace DeckPress.Style

open Text

/-- Tokens in ascending order, each once. -/
abbrev TokenSet := List String

namespace TokenSet

def insert (token : String) : TokenSet → TokenSet
  | [] => [token]
  | t :: ts =>
    if token < t then token :: t :: ts
    else if token = t then t :: ts
    else t :: insert token ts

def ofList (tokens : List String) : TokenSet := tokens.foldl (fun acc t => insert t acc) []

def union (a b : TokenSet) : TokenSet := b.foldl (fun acc t => insert t acc) a

end TokenSet

/-- The characters of a token. -/
def isTokenChar (c : Char) : Bool :=
  isAsciiAlnum c || ['-', '_', ':', '/', '.', '!', '%'].contains c

/-- A quoted value behind an equals sign, and what follows. -/
def readValue? (s : List Char) : Option (List Char × List Char) := do
  let rest ← stripPrefix? ['='] (trimStart s)
  match trimStart rest with
  | '"' :: rest => splitAt? ['"'] rest
  | '\'' :: rest => splitAt? ['\''] rest
  | _ => none

/-- The value of a class attribute at the start of a text, and what follows. -/
def readClassAttribute? (s : List Char) : Option (List Char × List Char) :=
  ["class", "className"].findSome? fun name => (stripPrefix? name.toList s).bind readValue?

/-- The values of the class attributes in a text. `before` is the character in front of it; no word
character may stand in front of an attribute. -/
def classValues (before : Option Char) (s : List Char) : List (List Char) := go s.length before s
where
  /-- Every step uses up a character, so `fuel` is the length of the text. -/
  go : Nat → Option Char → List Char → List (List Char)
    | 0, _, _ => []
    | _ + 1, _, [] => []
    | fuel + 1, before, c :: cs =>
      let found := if before.any isWord then none else readClassAttribute? (c :: cs)
      match found with
      | some (value, rest) => value :: go fuel (some '"') rest
      | none => go fuel (some c) cs

/-- What the value of a class attribute may name. -/
def candidates (value : List Char) : List String :=
  ((splitOn (!isTokenChar ·) value).filter (!·.isEmpty)).map String.ofList

/-- The tokens that a text uses. -/
def Theme.tokensIn (t : Theme) (code : String) : TokenSet :=
  .ofList (((classValues none code.toList).flatMap candidates).filter fun c => (t.rule? c).isSome)

end DeckPress.Style
