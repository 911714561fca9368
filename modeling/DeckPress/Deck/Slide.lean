import DeckPress.Deck.FrontMatter

/-!
# Slides

A slide as it is written in a deck: front matter, content, and the lines it takes up. Its title is a
field of the front matter, or else the first heading of level one; its note for the presenter is a
comment at the end of the content.
-/

namespace DeckPress.Deck

open Text

/-- The text of a heading of level one without the blanks and hash signs behind it. At least one
character is kept. -/
def headingText? (line : Line) : Option (List Char) :=
  match line with
  | '#' :: rest =>
    let blanks := rest.takeWhile fun c => c = ' ' || c = '\t'
    let body := rest.dropWhile fun c => c = ' ' || c = '\t'
    match body with
    | [] => if 2 ≤ blanks.length then some [] else none
    | c :: cs =>
      if blanks.isEmpty then none
      else some (trim (c :: dropEndWhile (fun c => c = ' ' || c = '\t' || c = '#') cs))
  | _ => none

/-- The first heading of level one in a text. -/
def firstHeading? (text : String) : Option String :=
  ((splitOn (· = '\n') text.toList).findSome? headingText?).map String.ofList

/-- The text of the comments that end a text, from the first comment on. -/
def trailingComment? (text : String) : Option String := do
  let body ← stripSuffix? "-->".toList (trimEnd text.toList)
  let (_, comment) ← splitAt? "<!--".toList body
  let note := trim comment
  if note.isEmpty then none else some (String.ofList note)

/-- One slide as written. -/
structure Slide where
  /-- The place in the deck, hidden slides counted. -/
  index : Nat
  /-- The first line, counted from 0. -/
  startLine : Nat
  /-- The line behind the last one. -/
  endLine : Nat
  rawFrontMatter : String
  frontMatter : Fields
  content : String
  deriving Repr

namespace Slide

def title? (s : Slide) : Option String :=
  match (s.frontMatter.get? "title").bind Json.str? with
  | some title => some title
  | none => firstHeading? s.content

/-- The presenter's note. -/
def note? (s : Slide) : Option String := trailingComment? s.content

def isHidden (s : Slide) : Bool :=
  ["hide", "disabled"].any fun key => (s.frontMatter.get? key).bind Json.bool? == some true

/-- The file that holds the text of the slide. -/
def source? (s : Slide) : Option String := (s.frontMatter.get? "src").bind Json.str?

/-- The slide as a markdown file of its own, with its front matter as written. -/
def markdown (s : Slide) : String :=
  if isBlank s.rawFrontMatter.toList then s.content
  else "---\n" ++ s.rawFrontMatter ++ "\n---\n" ++ s.content

end Slide

end DeckPress.Deck
