import DeckPress.Deck.FrontMatter
import DeckPress.Disk.Check

/-!
# Project layout

Where the deck, its theme and the client runtime live. The deck says which theme it wants; a theme is a
path, or a package that is looked for in the package directories from the deck upwards. A project without
its theme or its client runtime cannot be built.
-/

namespace DeckPress

open Text

/-- Where the parts of a project live. -/
structure Layout where
  /-- The absolute path of the deck. -/
  entry : Path
  deckRoot : Path
  /-- The theme as declared, a name or a path. -/
  theme : String
  themeRoot : Path
  clientRoot : Path
  deriving Repr, Inhabited

namespace Layout

/-- The theme of a deck that declares none. -/
def defaultTheme : String := "default"

/-- Whether a deck that declares `declared` wants another theme than the one found. -/
def themeChanged (l : Layout) (declared : Option String) : Bool :=
  declared.getD defaultTheme ≠ l.theme

/-- The theme that the front matter of a deck declares. -/
def declaredTheme (d : Disk) (entry : Path) : Except Error (Option String) := do
  let text ← (d.readText entry).mapError .read
  let fields ← (Deck.readHeadmatter text).mapError fun fault => .config (.headmatter fault)
  return (fields.get? "theme").bind Json.str?

/-- The directory that packages are installed in. -/
def packages : Path := ⟨"node_modules"⟩

/-- The package directories that a theme may be in, in the order they are tried. -/
def themeCandidates (theme : String) : List Path :=
  if theme.startsWith "@slidev/theme-" || theme.startsWith "slidev-theme-" then [packages / theme]
  else
    [packages / "@slidev" / ("theme-" ++ theme), packages / ("slidev-theme-" ++ theme),
      packages / theme]

/-- Whether a theme is given by a path. -/
def isPathLike (theme : String) : Bool := theme.startsWith "." || theme.startsWith "/"

/-- The directory of a theme. -/
def findTheme (d : Disk) (theme : String) (deckRoot : Path) : Except Error Path :=
  if isPathLike theme then
    let path := deckRoot / theme
    if d.isDirectory path then d.absolutePath path
    else .error (.config (.themeDirectory path))
  else
    match (themeCandidates theme).findSome? fun c =>
      (d.findUpwards? deckRoot c).filter d.isDirectory with
    | some found => .ok found
    | none => .error (.config (.theme theme deckRoot))

/-- The directory of the client runtime, which may be given. -/
def findClient (d : Disk) (given : Option Path) (deckRoot : Path) : Except Error Path :=
  match given with
  | some path =>
    let path := deckRoot / path.text
    if d.isDirectory path then d.absolutePath path
    else .error (.config (.clientDirectory path))
  | none =>
    match (d.findUpwards? deckRoot ⟨clientPackage⟩).filter d.isDirectory with
    | some found => .ok found
    | none => .error (.config (.client deckRoot))

/-- The layout of the project around a deck. A given theme counts before the declared one. -/
def resolve (d : Disk) (entry : Path) (theme : Option String) (clientRoot : Option Path) :
    Except Error Layout := do
  match d.fileFault? entry with
  | some fault => throw (.config (.entry fault))
  | none =>
    let entry ← d.absolutePath entry
    let deckRoot := entry.parent?.getD entry
    let theme ← match theme with
      | some name => pure name
      | none => (← declaredTheme d entry).getD defaultTheme |> pure
    let themeRoot ← findTheme d theme deckRoot
    let clientRoot ← findClient d clientRoot deckRoot
    return { entry, deckRoot, theme, themeRoot, clientRoot }

end Layout

end DeckPress
