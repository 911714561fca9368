import DeckPress.Component.Script
import DeckPress.Component.Tag
import DeckPress.Disk.Find
import DeckPress.Artifact

/-!
# Importing components

Each component that a file uses and does not declare is imported. A component is looked for by its name
in directories and then asked for from resolvers. What a directory holds is listed when it is first
needed, and the listing is kept until it is invalidated.
-/

namespace DeckPress.Component

open Text

/-- Where components are looked for. -/
structure ComponentOptions where
  extensions : List String
  /-- Directories, the most important first. A relative one is looked for beside the consuming file and
  then below the deck's directory. -/
  dirs : List Path
  /-- Whether directories are searched to the bottom. -/
  deep : Bool := true
  deriving Repr

/-- The component files of a directory, by name in ascending order. -/
abbrev Listing := List (String × Path)

/-- The listings made so far. -/
abbrev Listings := List (Path × Listing)

/-- The imports that a tag may stand for, apart from component files. -/
abbrev Resolver := String → Option Resolution

/-- How a project imports components. -/
structure Importer where
  options : ComponentOptions
  deckRoot : Path
  /-- The extensions of files that are components. -/
  included : List String
  resolvers : List Resolver

namespace Importer

/-- Whether a file is a component. -/
def appliesTo (i : Importer) (a : Artifact) : Bool :=
  a.kind = .script && i.included.contains a.extension

/-- The directories to look in for a file in the directory `consumer`. -/
def searchDirs (i : Importer) (consumer : Option Path) : List Path :=
  let beside := match consumer with
    | some dir =>
      if dir == i.deckRoot then []
      else (i.options.dirs.filter Path.isRelative).map fun d => dir / d.text
    | none => []
  beside ++ i.options.dirs.map fun d => if d.isRelative then i.deckRoot / d.text else d

/-- Adds a component, unless there is one of that name. -/
def addComponent (listing : Listing) (p : Path) : Listing :=
  match p.stem? with
  | some stem =>
    let name := pascalCase stem
    if (listing.lookup name).isSome then listing else insertSorted name p listing
  | none => listing

/-- The component files in a directory. Of several with one name, that with the first extension counts,
and then the first in the directory. -/
def list (i : Importer) (d : Disk) (dir : Path) : Listing :=
  if d.isDirectory dir then
    let depth := if i.options.deep then "/**/*." else "/*."
    (i.options.extensions.flatMap fun extension =>
      (d.glob? (Glob.escape dir.text ++ depth ++ extension)).getD []).foldl addComponent []
  else []

/-- The listing of a directory, made if there is none yet. -/
def listing (i : Importer) (d : Disk) (dir : Path) : StateM Listings Listing := do
  match (← get).find? (·.1 == dir) with
  | some (_, l) => return l
  | none =>
    let l := i.list d dir
    modify ((dir, l) :: ·)
    return l

/-- The file of a component in the first of the directories that has one. -/
def findFile? (i : Importer) (d : Disk) (name : String) : List Path → StateM Listings (Option Path)
  | [] => return none
  | dir :: dirs => do
    match (← i.listing d dir).lookup name with
    | some file => return some file
    | none => i.findFile? d name dirs

/-- What a tag in a file of the directory `consumer` stands for. -/
def resolve? (i : Importer) (d : Disk) (consumer : Option Path) (tag : String) :
    StateM Listings (Option Resolution) := do
  let name := pascalCase tag
  match ← i.findFile? d name (i.searchDirs consumer) with
  | some file => return some ⟨name, file.slashed⟩
  | none => return i.resolvers.findSome? (· tag)

/-- Resolves tags; those that cannot be resolved are left over. -/
def resolveAll (i : Importer) (d : Disk) (consumer : Option Path) :
    List String → StateM Listings (List (String × Resolution) × List String)
  | [] => return ([], [])
  | tag :: tags => do
    let found ← i.resolve? d consumer tag
    let (resolved, left) ← i.resolveAll d consumer tags
    match found with
    | some r => return (insertSorted (pascalCase tag) r resolved, left)
    | none => return (resolved, tag :: left)

/-- Imports the components that a file uses and does not declare. -/
def apply (i : Importer) (d : Disk) (a : Artifact) : StateM Listings Artifact := do
  if !i.appliesTo a then return a
  let declared := declaredNames a.code
  let tags := (usedTags a.code).filter fun tag => !declared.contains (pascalCase tag)
  let (resolved, left) ← i.resolveAll d a.directory? tags
  let a := { a with degradations := a.degradations ++ left.map .unresolvedComponent }
  if resolved.isEmpty then return a
  return { a with code := insertImports a.code (resolved.map (·.2.statement)) }

end Importer

end DeckPress.Component
