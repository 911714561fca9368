import DeckPress.Component.Element
import DeckPress.Number.Natural

/-!
# Ids of generated modules

Some modules are never read from a disk but generated: those derived from the deck, the stylesheet, the
shared state and the wrappers of plain elements. Each has one id. Bundlers may put NUL characters in
front of an id, and servers a query behind it and a slash before `virtual:`.
-/

namespace DeckPress

open Text Component

/-- A generated module. -/
inductive ModuleId where
  | configs
  | entry
  | slides
  | setups
  | monaco
  /-- One visible slide, numbered from 1. -/
  | slide (number : Nat)
  | stylesheet
  | sharedState
  /-- The wrapper of a plain element. -/
  | element (name : String)
  deriving DecidableEq, Repr

namespace ModuleId

def slideStart : String := "/@slidev/slide/"

/-- The id of a module. -/
def text : ModuleId → String
  | .configs => "/@slidev/configs"
  | .entry => "/@slidev/entry"
  | .slides => "/@slidev/slides"
  | .setups => "/@slidev/setups"
  | .monaco => "/@slidev/monaco"
  | .slide number => slideStart ++ toString number ++ ".md"
  | .stylesheet => "virtual:windi.css"
  | .sharedState => "/@server-ref/state"
  | .element name => Element.idStart ++ name

/-- The name of the file that a build writes a module to. -/
def outputName : ModuleId → String
  | .configs => "configs.js"
  | .entry => "entry.js"
  | .slides => "slides.js"
  | .setups => "setups.js"
  | .monaco => "monaco.js"
  | .slide number => "slide-" ++ toString number ++ ".md"
  | .stylesheet => "windi.css"
  | .sharedState => "server-ref-state.js"
  | .element name => "vue-factory-" ++ name ++ ".js"

/-- The modules that are derived from the deck alone, in the order they are built. -/
def deckModules : List ModuleId := [.configs, .slides, .setups, .monaco, .entry]

/-- The number between the two ends of a slide's id. -/
def slideNumber? (s : List Char) : Option Nat := do
  let rest ← stripPrefix? slideStart.toList s
  let digits ← stripSuffix? ".md".toList rest
  (readNatBelow? (Nat.pow 2 64) digits).filter (0 < ·)

/-- Takes away what bundlers and servers add to an id. -/
def bareId (id : String) : List Char :=
  let s := (id.toList.dropWhile (· = '\x00')).takeWhile (· ≠ '?')
  match s with
  | '/' :: rest => if startsWith "virtual:".toList rest then rest else s
  | _ => s

/-- The modules with a fixed id, and a second id of the stylesheet. -/
def fixedIds : List (String × ModuleId) :=
  [(text .configs, .configs), (text .entry, .entry), (text .slides, .slides),
    (text .setups, .setups), (text .monaco, .monaco), (text .stylesheet, .stylesheet),
    ("/@windicss/windi.css", .stylesheet), (text .sharedState, .sharedState)]

/-- Reads an id; none if it is not that of a generated module. -/
def parse? (id : String) : Option ModuleId :=
  let s := bareId id
  match fixedIds.lookup (String.ofList s) with
  | some m => some m
  | none =>
    match stripPrefix? Element.idStart.toList s with
    | some name => (Element.known? (String.ofList name)).map .element
    | none => (slideNumber? s).map .slide

/-- The id of the module that an id leads to; none if it is not that of a generated module. -/
def canonical? (id : String) : Option String := (parse? id).map text

end ModuleId

end DeckPress
