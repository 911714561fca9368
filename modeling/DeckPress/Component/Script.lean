import DeckPress.Component.Hoist

/-!
# Names declared in scripts

What the scripts of a component file import or declare needs no further import. The scripts are not
parsed: a keyword with a name behind it declares that name, wherever it stands.
-/

namespace DeckPress.Component

open Text

/-- The characters a name in a script starts with. -/
def startsIdentifier (c : Char) : Bool := isAsciiAlpha c || c = '_' || c = '$'

def isIdentifierChar (c : Char) : Bool := isWord c || c = '$'

/-- A name at the start of a text, and what follows. -/
def readIdentifier? (s : List Char) : Option (List Char × List Char) :=
  if s.head?.any startsIdentifier then
    some (s.takeWhile isIdentifierChar, s.dropWhile isIdentifierChar)
  else none

/-- What a reader finds in a text, from left to right and without overlap. The reader is tried where no
word character stands in front; `before` is the character in front of the text. -/
def findAtWords {α : Type} (read : List Char → Option (α × List Char)) (before : Option Char)
    (s : List Char) : List α := go s.length before s
where
  /-- Every step uses up a character, so `fuel` is the length of the text. -/
  go : Nat → Option Char → List Char → List α
    | 0, _, _ => []
    | _ + 1, _, [] => []
    | fuel + 1, before, c :: cs =>
      let found := if before.any isWord then none else read (c :: cs)
      match found with
      | some (a, rest) =>
        let taken := (c :: cs).take ((c :: cs).length - rest.length)
        a :: go fuel taken.getLast? rest
      | none => go fuel (some c) cs

/-- A keyword, white space and a name. -/
def readDeclaration? (keyword : String) (s : List Char) : Option (List Char × List Char) := do
  let rest ← stripPrefix? keyword.toList s
  if rest.head?.any isWhite then readIdentifier? (trimStart rest) else none

/-- The braces of an import, with a default import in front of them or not. -/
def readNamedImport? (s : List Char) : Option (List Char × List Char) := do
  let rest := trimStart (← stripPrefix? "import".toList s)
  let afterDefault := do
    let (_, rest) ← readIdentifier? rest
    let rest ← stripPrefix? [','] (trimStart rest)
    return trimStart rest
  match afterDefault.getD rest with
  | '{' :: body => splitAt? ['}'] body
  | _ => none

/-- The names that the list between the braces of an import binds. -/
def boundNames (list : List Char) : List (List Char) :=
  (splitOn (· = ',') list).filterMap fun spec => (words spec).getLast?

/-- The keywords in front of a declared name. -/
def declaringKeywords : List String := ["const", "let", "var", "function", "class"]

/-- The names that a script imports or declares. -/
def namesInScript (script : List Char) : List (List Char) :=
  findAtWords (readDeclaration? "import") none script ++
  (findAtWords readNamedImport? none script).flatMap boundNames ++
  findAtWords (fun s => declaringKeywords.findSome? (readDeclaration? · s)) none script

/-- The names that the scripts of a component file import or declare. -/
def declaredNames (code : String) : List String :=
  ((cutElements "script" code.toList).2.flatMap fun e => namesInScript e.content).map String.ofList

/-- The text up to the end of the first opening tag of a setup script, and the text behind it. -/
def splitAtSetup? (s : List Char) : Option (List Char × List Char) := go [] s
where
  /-- Looks on behind the text passed, which is reversed. -/
  go (passed : List Char) : List Char → Option (List Char × List Char)
    | [] => none
    | c :: cs =>
      let found := do
        let rest ← stripPrefix? "<script".toList (c :: cs)
        if rest.head?.any isWord then none
        let (attributes, rest) ← splitAt? ['>'] rest
        if containsWord "setup" attributes then
          some (passed.reverse ++ "<script".toList ++ attributes ++ ['>'], rest)
        else none
      match found with
      | some split => some split
      | none => go (c :: passed) cs

/-- Puts import statements into a component file: into the first setup script, or into a new one behind
the text. -/
def insertImports (code : String) (statements : List String) : String :=
  let block := String.intercalate "\n" statements
  match splitAtSetup? code.toList with
  | some (before, after) => String.ofList before ++ "\n" ++ block ++ String.ofList after
  | none =>
    String.ofList (trimEnd code.toList) ++ "\n<script setup>\n" ++ block ++ "\n</script>\n"

end DeckPress.Component
