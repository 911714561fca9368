import DeckPress.Disk.Find
import DeckPress.Error

/-!
# Files that are scanned for utility classes

A project says by glob patterns which files are scanned, relative to its root. Some directories outside
are scanned too, by the same patterns relative to themselves.
-/

namespace DeckPress.Style

open Text Glob

/-- Which files are scanned. -/
structure Scope where
  root : Path
  /-- Directories scanned besides the root, even where patterns exclude them as a part of it. -/
  scanDirs : List Path
  included : List Pattern
  excluded : List Pattern
  deriving Repr

namespace Scope

def readPatterns (texts : List String) : Except Error (List Pattern) :=
  texts.mapM fun text =>
    match Pattern.parse? text with
    | some p => .ok p
    | none => .error (.config (.glob text))

/-- Whether a file is scanned by its path relative to the directory it is looked for in. -/
def admits (s : Scope) (relative : String) : Bool :=
  s.included.any (·.accepts relative) && !s.excluded.any (·.accepts relative)

/-- The path that patterns are compared with. -/
def relativeId (s : Scope) (fileId : String) : String :=
  let path : Path := ⟨String.ofList (fileId.toList.takeWhile (· ≠ '?'))⟩
  match s.scanDirs.findSome? path.stripPrefix? with
  | some rest => rest.slashed
  | none =>
    match path.stripPrefix? s.root with
    | some rest => rest.slashed
    | none => String.ofList (path.slashed.toList.dropWhile (· = '/'))

/-- Whether a file is scanned. -/
def covers (s : Scope) (fileId : String) : Bool := s.admits (s.relativeId fileId)

/-- Inserts a path into an ascending list, unless it is there. -/
def insertPath (p : Path) : List Path → List Path
  | [] => [p]
  | q :: qs =>
    if p.lt q then p :: q :: qs
    else if p == q then q :: qs
    else q :: insertPath p qs

/-- The files on the disk that are scanned, in the order of paths. -/
def files (s : Scope) (d : Disk) : List Path :=
  let found := (s.root :: s.scanDirs).flatMap fun dir =>
    if d.isDirectory dir then
      s.included.flatMap fun p => (d.glob? (escape dir.text ++ "/" ++ p.text)).getD []
    else []
  (found.filter fun p => d.isFile p && s.covers p.text).foldl (fun acc p => insertPath p acc) []

end Scope

end DeckPress.Style
