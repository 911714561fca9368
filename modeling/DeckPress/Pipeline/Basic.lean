import DeckPress.Asset.Rewrite
import DeckPress.Component.Brace
import DeckPress.Component.Importer
import DeckPress.Module.Deck
import DeckPress.Options.Basic
import DeckPress.SharedState
import DeckPress.Style.Collection
import DeckPress.Style.Config
import DeckPress.Style.Scope
import DeckPress.Style.Sheet

/-!
# Pipelines

A pipeline is what the sources of one project are sent through. It is assembled once from the layout and
the options of the project and does not change; what it remembers between runs is its state: the
presentation read last, the listings of component directories, the utility classes collected, and the
latest version of each file.
-/

namespace DeckPress

/-- What a pipeline is assembled from. -/
structure Project where
  entry : Path
  /-- The theme, where it is not left to the deck. -/
  theme : Option String := none
  clientRoot : Option Path := none
  overrides : Overrides := {}
  /-- Resolvers that are asked after those for icons and elements. -/
  resolvers : List Component.Resolver := []
  /-- The cache of remote assets, where it is not the one in the project's cache directory. -/
  cache : Option Asset.Cache := none

/-- The theme that the project asks for. -/
def Project.givenTheme (r : Project) : Option String := r.theme <|> r.overrides.theme

/-- The client runtime that the project asks for. -/
def Project.givenClient (r : Project) : Option Path := r.clientRoot <|> r.overrides.clientRoot

/-- The assembled pipeline of a project. -/
structure Pipeline where
  layout : Layout
  /-- Whether the theme was asked for by the project and not by the deck. -/
  themeGiven : Bool
  options : Options
  importer : Component.Importer
  vocabulary : Style.Theme
  scope : Style.Scope
  rewriter : Asset.Rewriter
  cache : Asset.Cache

namespace Pipeline

/-- How a project imports components. -/
def importerFor (o : Options) (deckRoot : Path) (more : List Component.Resolver) : Component.Importer where
  options := o.components
  deckRoot := deckRoot
  included := o.componentFiles
  resolvers := [o.icons.resolve?, Component.Element.resolve?] ++ more

/-- Which files of a project are scanned for utility classes. -/
def scopeFor (o : StyleOptions) (root : Path) : Except Error Style.Scope := do
  return {
    root
    scanDirs := o.scanDirs
    included := ← Style.Scope.readPatterns o.included
    excluded := ← Style.Scope.readPatterns o.excluded }

/-- Assembles the pipeline of a project. -/
def assemble (d : Disk) (r : Project) : Except Error Pipeline := do
  let layout ← Layout.resolve d r.entry r.givenTheme r.givenClient
  let options := r.overrides.resolve layout
  let scope ← scopeFor options.style layout.deckRoot
  let patterns ← Asset.readPatterns options.assets.patterns
  return {
    layout
    themeGiven := r.givenTheme.isSome
    options
    importer := importerFor options layout.deckRoot r.resolvers
    vocabulary := Style.Theme.load d options.style.configFiles
    scope
    rewriter := { enabled := options.assets.enabled, patterns, deckRoot := layout.deckRoot }
    cache := r.cache.getD (Asset.Cache.stored options.assets.cacheDir) }

/-- What a pipeline remembers. -/
structure State where
  /-- The presentation, until it is invalidated. -/
  deck : Option Presentation := none
  /-- The listings of component directories, until they are invalidated. -/
  listings : Component.Listings := []
  /-- The utility classes of the files that have been run. -/
  collection : Style.Collection := {}
  /-- The latest version of each file, by file id in ascending order. -/
  versions : List (String × Nat) := []
  /-- The state shared with the running slides. -/
  shared : SharedState

/-- Work on the state of a pipeline. What was done before an error remains done. -/
abbrev Work := ExceptT Error (StateM State)

/-- Forgets what was read from the disk. -/
def State.invalidate (s : State) : State := { s with deck := none, listings := [] }

/-- Whether the deck asks for another theme than the one in use. -/
def needsReassembly (p : Pipeline) (d : Disk) : Except Error Bool := do
  if p.themeGiven then return false
  return p.layout.themeChanged (← Layout.declaredTheme d p.layout.entry)

/-- Whether changes of these files ask for a new pipeline. -/
def needsReassemblyFor (p : Pipeline) (d : Disk) (changed : List Path) : Except Error Bool :=
  if changed.any p.options.style.configFiles.contains then .ok true
  else p.needsReassembly d

/-- The presentation, read from the disk if it has been invalidated. -/
def presentation (p : Pipeline) (d : Disk) : Work Presentation := do
  match (← get).deck with
  | some deck => return deck
  | none =>
    let deck ← liftExcept (Presentation.load d p.layout)
    modify fun s => { s with deck := some deck }
    return deck
where
  /-- An answer that may be an error. -/
  liftExcept {α : Type} (r : Except Error α) : Work α := ExceptT.mk (pure r)

/-- The stylesheet for the utility classes collected so far. -/
def stylesheet (p : Pipeline) (s : State) : String := p.vocabulary.stylesheet s.collection.tokens

/-- The code of a generated module; none for other ids. -/
def load (p : Pipeline) (d : Disk) (id : String) : Work (Option String) := do
  match ModuleId.parse? id with
  | none => return none
  | some .stylesheet => return p.stylesheet (← get)
  | some .sharedState => return (← get).shared.moduleCode
  | some (.element name) => return Component.Element.moduleCode name
  | some module =>
    let deck ← p.presentation d
    ExceptT.mk (pure (deck.provide? d p.options.markdown.monaco module))

end Pipeline

end DeckPress
