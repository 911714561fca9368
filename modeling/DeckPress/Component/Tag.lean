import DeckPress.Component.Name

/-!
# Component tags in a template

A tag stands for a component if its name has a hyphen or a capital. Of several spellings of one component
the first that is used counts; the components that the framework provides itself do not.
-/

namespace DeckPress.Component

open Text

/-- The components of the framework. -/
def builtinComponents : List String :=
  ["Component", "KeepAlive", "Slot", "Suspense", "Teleport", "Template", "Transition",
    "TransitionGroup"]

/-- The template of a component file, from its first opening to its last closing tag, or the whole text
where there is no such part. -/
def templateSection (code : List Char) : List Char :=
  let opening := "<template".toList
  match splitAt? opening code, splitAtLast? "</template>".toList code with
  | some (before, _), some (upToClosing, _) =>
    if before.length < upToClosing.length then upToClosing.drop before.length else code
  | _, _ => code

/-- The characters of a tag's name behind the first. -/
def isTagNameChar (c : Char) : Bool := isWord c || c = '-'

/-- The names of the opening tags in a text. -/
def openingTags (s : List Char) : List String := go s.length s
where
  /-- Every step uses up a character, so `fuel` is the length of the text. -/
  go : Nat → List Char → List String
    | 0, _ => []
    | _ + 1, [] => []
    | fuel + 1, c :: cs =>
      if c = '<' && cs.head?.any isAsciiAlpha then
        String.ofList (cs.takeWhile isTagNameChar) :: go fuel (cs.dropWhile isTagNameChar)
      else go fuel cs

/-- Whether a tag is spelt like that of a component. -/
def looksLikeComponent (tag : String) : Bool :=
  tag.toList.any fun c => c = '-' || isAsciiUpper c

/-- Keeps the first tag of each component. `seen` are the names that count no more. -/
def firstSpellings (seen : List String) : List String → List String
  | [] => []
  | tag :: tags =>
    let name := pascalCase tag
    if seen.contains name then firstSpellings seen tags
    else tag :: firstSpellings (name :: seen) tags

/-- The component tags that a component file uses, in the order of their first use. -/
def usedTags (code : String) : List String :=
  firstSpellings builtinComponents
    ((openingTags (templateSection code.toList)).filter looksLikeComponent)

end DeckPress.Component
