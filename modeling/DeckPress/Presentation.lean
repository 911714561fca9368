import DeckPress.Deck.Parser
import DeckPress.Layout
import DeckPress.Module.Id

/-!
# Presentations

A presentation is a deck with all it refers to: the files that hold the text of slides, the stylesheets of
deck, theme and client, and the setup files. Everything that is generated from a deck is a function of its
presentation.
-/

namespace DeckPress

open Text

/-- A file that holds the text of a slide. -/
structure SlideFile where
  path : Path
  /-- The text, absent where it cannot be read. -/
  content : Option String
  deriving Repr

/-- A slide of a presentation. -/
structure PresentedSlide where
  /-- The slide as written in the deck. -/
  source : Deck.Slide
  /-- The file that its front matter refers to. -/
  file : Option SlideFile
  deriving Repr

namespace PresentedSlide

/-- The front matter of a slide file with that of the slide that refers to it. -/
def mergedFields (fields own : Fields) : Fields := fields.override (own.filter (·.1 ≠ "src"))

/-- The slide as a markdown file of its own. For a slide file this is its text, under the merged front
matter. `module` is the id of the module that asks for it. -/
def markdown (s : PresentedSlide) (module : String) : Except Error String :=
  match s.file with
  | none => .ok s.source.markdown
  | some file =>
    match file.content with
    | none => .error (.resolution module (.missingSource (s.source.index + 1) file.path))
    | some content => do
      let (fields, body) ← (Deck.splitFrontMatter content).mapError (.compile file.path.text)
      return Deck.withFrontMatter (mergedFields fields s.source.frontMatter) body

end PresentedSlide

/-- A deck with all it refers to. -/
structure Presentation where
  layout : Layout
  /-- The front matter of the deck. -/
  headmatter : Fields
  slides : List PresentedSlide
  /-- The stylesheets that the application imports, in order. -/
  styles : List Path
  /-- The setup files. Those that the deck declares need not exist. -/
  setupFiles : List Path
  deriving Repr

namespace Presentation

/-- The slide with the file that it refers to. -/
def withFile (d : Disk) (deckRoot : Path) (s : Deck.Slide) : PresentedSlide where
  source := s
  file := s.source?.map fun src =>
    let path := deckRoot / src
    { path, content := (d.readText path).toOption }

/-- The stylesheets that exist. -/
def findStyles (d : Disk) (l : Layout) : List Path :=
  [l.clientRoot / "styles/index.css", l.themeRoot / "styles/index.css",
    l.deckRoot / "style.css"].filter d.isFile

/-- The setup files that a deck declares. -/
def declaredSetups (headmatter : Fields) (deckRoot : Path) : List Path :=
  (((headmatter.get? "setups").bind Json.arr?).getD []).filterMap fun entry =>
    entry.str?.map fun file => deckRoot / file

/-- Adds a path at the end of a list, unless it is there. -/
def addPath (paths : List Path) (p : Path) : List Path := if paths.contains p then paths else paths ++ [p]

/-- The setup files in their usual places, and then those declared. -/
def findSetups (d : Disk) (l : Layout) (headmatter : Fields) : List Path :=
  (declaredSetups headmatter l.deckRoot).foldl addPath
    ([l.themeRoot / "setup/main.ts", l.deckRoot / "setup/main.ts"].filter d.isFile)

/-- Reads the deck of a project and all it refers to. -/
def load (d : Disk) (l : Layout) : Except Error Presentation := do
  let text ← (d.readText l.entry).mapError .read
  let deck ← (Deck.parse text).mapError (.compile l.entry.text)
  return {
    layout := l
    headmatter := deck.headmatter
    slides := deck.slides.map (withFile d l.deckRoot)
    styles := findStyles d l
    setupFiles := findSetups d l deck.headmatter }

/-- Numbers a list from `n` on. -/
def numberFrom {α : Type} (n : Nat) : List α → List (Nat × α)
  | [] => []
  | a :: rest => (n, a) :: numberFrom (n + 1) rest

/-- The slides that are shown, numbered from 1. -/
def visible (p : Presentation) : List (Nat × PresentedSlide) :=
  numberFrom 1 (p.slides.filter fun s => !s.source.isHidden)

/-- The shown slide with a number. -/
def slide? (p : Presentation) (number : Nat) : Option PresentedSlide := p.visible.lookup number

end Presentation

end DeckPress
