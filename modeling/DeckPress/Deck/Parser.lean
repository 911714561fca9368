import DeckPress.Deck.Slide

/-!
# Reading decks

A separator outside code fences starts a new slide. The lines behind a separator are front matter if the
first of them looks like a field and three hyphens follow before any code fence; otherwise they belong to
the body. Inside a fence nothing is a separator; a fence must be closed by a line that starts with its
marker. Slides without front matter and without text are dropped.
-/

namespace DeckPress.Deck

open Text

/-- The lines of one slide while a deck is read. -/
structure Block where
  /-- The line of the separator, or the first line of the deck. -/
  start : Nat
  /-- The line behind the last one. -/
  stop : Nat
  /-- The lines of the front matter. -/
  front : Option (List Line)
  body : List Line
  deriving Repr

namespace Block

/-- A block of which nothing has been read. -/
def opened (start : Nat) : Block := ⟨start, start, none, []⟩

def isEmpty (b : Block) : Bool := b.front.isNone && b.body.all isBlank

def addLines (b : Block) (ls : List Line) : Block := { b with body := b.body ++ ls }

def closeAt (b : Block) (stop : Nat) : Block := { b with stop }

end Block

/-- Reads the lines of a deck from line `i` on, with `current` the slide they continue. An error is the
number of a fence's line, counted from 1. -/
def readBlocks (i : Nat) (current : Block) : List Line → Except Nat (List Block)
  | [] => .ok [current.closeAt i]
  | line :: rest =>
    if isSeparator line then
      let fresh := Block.opened i
      let blocks :=
        match if rest.head?.any looksLikeField then closingLine? rest else none with
        | some close =>
          readBlocks (i + close + 2) { fresh with front := some (rest.take close) }
            (rest.drop (close + 1))
        | none => readBlocks (i + 1) fresh rest
      if i = 0 then blocks else blocks.map (current.closeAt i :: ·)
    else
      match fenceMarker? line with
      | some marker =>
        match rest.findIdx? fun l => startsWith marker (trimStart l) with
        | some close =>
          readBlocks (i + close + 2) (current.addLines (line :: rest.take (close + 1)))
            (rest.drop (close + 1))
        | none => .error (i + 1)
      | none => readBlocks (i + 1) (current.addLines [line]) rest
termination_by ls => ls.length
decreasing_by all_goals simp only [List.length_cons, List.length_drop]; omega

/-- The body lines as text, each with its end. Lines that make no text make no content. -/
def contentOf (body : List Line) : String :=
  let text := joinLines body
  String.ofList (if text.isEmpty then [] else text ++ ['\n'])

/-- The slide with this index that a block holds. -/
def Block.slide (b : Block) (index : Nat) : Except CompileFault Slide :=
  let raw := joinLines (b.front.getD [])
  match readFields raw with
  | .error fault => .error (.slideFrontMatter (b.start + 1) fault)
  | .ok fields =>
    .ok {
      index
      startLine := b.start
      endLine := b.stop
      rawFrontMatter := String.ofList raw
      frontMatter := fields
      content := contentOf b.body }

/-- The slides of blocks, numbered on from `index`. -/
def slidesFrom (index : Nat) : List Block → Except CompileFault (List Slide)
  | [] => .ok []
  | b :: bs => do
    let slide ← b.slide index
    return slide :: (← slidesFrom (index + 1) bs)

end DeckPress.Deck

namespace DeckPress

/-- A deck as written, before the files that slides refer to are read. -/
structure Deck where
  slides : List Deck.Slide
  deriving Repr

namespace Deck

open Text

/-- The front matter of the first slide, which counts for the whole deck. -/
def headmatter (d : Deck) : Fields := (d.slides.head?.map (·.frontMatter)).getD []

/-- Reads a deck. -/
def parse (text : String) : Except CompileFault Deck :=
  match readBlocks 0 (.opened 0) (lines text.toList) with
  | .error line => .error (.openFence line)
  | .ok blocks => (slidesFrom 0 (blocks.filter (!·.isEmpty))).map (⟨·⟩)

end Deck

end DeckPress
