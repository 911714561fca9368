import DeckPress.Disk.Basic

/-!
# Files that are served

Files are served only from below certain directories. Links and dots are resolved first, so that no path
leads out of them.
-/

namespace DeckPress.Server

/-- The media types of extensions. -/
def contentTypes : List (String × String) :=
  [("html", "text/html"), ("css", "text/css"), ("json", "application/json"), ("png", "image/png"),
    ("jpg", "image/jpeg"), ("jpeg", "image/jpeg"), ("gif", "image/gif"), ("svg", "image/svg+xml"),
    ("webp", "image/webp"), ("mp4", "video/mp4"), ("woff2", "font/woff2")]

/-- The media type of code, and of every file with an unknown extension. -/
def scriptType : String := "application/javascript"

/-- The media type that a file is served with. -/
def contentType (file : Path) : String := (contentTypes.lookup file.extension).getD scriptType

/-- Whether a file lies below one of the directories. -/
def isServable (d : Disk) (roots : List Path) (file : Path) : Bool :=
  match d.canonicalize file with
  | .ok file => (roots.filterMap fun r => (d.canonicalize r).toOption).any file.startsWith
  | .error _ => false

end DeckPress.Server
