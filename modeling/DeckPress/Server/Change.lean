import DeckPress.Disk.Path

/-!
# Changes that matter

Of the changes below a deck's directory only those count that can affect the build: to source files and to
the configuration of utility classes, but not to what is installed or generated.
-/

namespace DeckPress.Server

/-- The directories in which no change counts. -/
def ignoredDirectories : List String := ["node_modules", ".git", "dist", ".slidev"]

/-- The extensions of source files. -/
def sourceExtensions : List String := ["md", "vue", "ts", "tsx", "js", "css", "html"]

/-- Whether a change of a path can affect the build. -/
def isRelevant (p : Path) : Bool :=
  if p.components.any fun c => ignoredDirectories.any fun n => c == .name n then false
  else if p.fileName? = some "windi.config.json" then true
  else
    match p.extension? with
    | some _ => sourceExtensions.contains p.extension
    | none => false

end DeckPress.Server
