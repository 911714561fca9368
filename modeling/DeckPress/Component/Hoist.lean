import DeckPress.Text.Basic

/-!
# Scripts and styles in a template

Script and style elements of rendered markdown cannot stay in the template. Setup scripts go into the
setup script of the component, other scripts and styles behind it.
-/

namespace DeckPress.Component

open Text

/-- An element cut out of a text: the text of its attributes, its content, and the whole of it with the
line end behind it. -/
structure Element where
  attributes : List Char
  content : List Char
  whole : List Char
  deriving Repr

/-- The element with a name at the start of a text, and what follows it. -/
def readElement? (name : String) (s : List Char) : Option (Element × List Char) := do
  let rest ← stripPrefix? ('<' :: name.toList) s
  if rest.head?.any isWord then none
  let (attributes, rest) ← splitAt? ['>'] rest
  let closing := "</".toList ++ name.toList ++ ['>']
  let (content, rest) ← splitAt? closing rest
  let rest := match rest with
    | '\n' :: after => after
    | _ => rest
  return (⟨attributes, content, s.take (s.length - rest.length)⟩, rest)

/-- Cuts all elements with a name out of a text. -/
def cutElements (name : String) (s : List Char) : List Char × List Element := go s.length s
where
  /-- Every step uses up a character, so `fuel` is the length of the text. -/
  go : Nat → List Char → List Char × List Element
    | _, [] => ([], [])
    | 0, s => (s, [])
    | fuel + 1, c :: cs =>
      match readElement? name (c :: cs) with
      | some (e, rest) =>
        let (text, es) := go fuel rest
        (text, e :: es)
      | none =>
        let (text, es) := go fuel cs
        (c :: text, es)

/-- Whether a word stands in a text, not as a part of a longer one. -/
def containsWord (word : String) (s : List Char) : Bool :=
  (splitOn (!isWord ·) s).contains word.toList

def isQuote (c : Char) : Bool := c = '"' || c = '\''

/-- Whether attributes name TypeScript as the language. `before` is the character in front of them. -/
def namesTypeScript (before : Option Char) : List Char → Bool
  | [] => false
  | c :: cs =>
    let here := match stripPrefix? "lang=".toList (c :: cs) with
      | some (q :: 't' :: 's' :: q' :: _) => isQuote q && isQuote q' && isBoundary before (some c)
      | _ => false
    here || namesTypeScript (some c) cs

/-- What is taken out of a template. -/
structure Hoisted where
  /-- The contents of the setup scripts. -/
  setup : List (List Char)
  /-- Other scripts. -/
  scripts : List (List Char)
  styles : List (List Char)
  typescript : Bool
  deriving Repr

/-- Takes scripts and then styles out of rendered HTML. -/
def hoist (html : List Char) : List Char × Hoisted :=
  let (html, scripts) := cutElements "script" html
  let (html, styles) := cutElements "style" html
  let isSetup (e : Element) : Bool := containsWord "setup" e.attributes
  (html, {
    setup := (scripts.filter isSetup).map (·.content)
    scripts := (scripts.filter (!isSetup ·)).map (·.whole)
    styles := styles.map (·.whole)
    typescript := scripts.any (namesTypeScript none ·.attributes) })

end DeckPress.Component
