import DeckPress.Error

/-!
# Artifacts

An artifact is one file on its way through the pipeline: the code it has become so far and the problems
met. How it is treated depends on its kind, which its id tells by the extension. A query behind the file
name, as development servers add it, does not belong to the name.
-/

namespace DeckPress

open Text

/-- How a file is treated. -/
inductive FileKind where
  | markdown
  | script
  | style
  | other
  deriving DecidableEq, Repr, Inhabited

/-- The kind that goes with an extension in lower case. -/
def FileKind.ofExtension (extension : String) : FileKind :=
  if ["md", "markdown"].contains extension then .markdown
  else if ["vue", "ts", "tsx", "js", "jsx", "mjs", "cjs"].contains extension then .script
  else if ["css", "scss", "sass", "less", "postcss", "styl"].contains extension then .style
  else .other

/-- A file id without its query. -/
def withoutQuery (id : String) : Path := ⟨String.ofList (id.toList.takeWhile (· ≠ '?'))⟩

def FileKind.ofId (id : String) : FileKind := .ofExtension (withoutQuery id).extension

/-- One file on its way through the pipeline. -/
structure Artifact where
  fileId : String
  kind : FileKind
  code : String
  /-- Set once the code was compiled from markdown. -/
  fromMarkdown : Bool := false
  degradations : List Degradation := []
  deriving Repr

namespace Artifact

/-- A file as it is read. -/
def ofSource (fileId source : String) : Artifact :=
  { fileId, kind := .ofId fileId, code := source }

/-- The extension of the file in lower case. -/
def extension (a : Artifact) : String := (withoutQuery a.fileId).extension

/-- The directory of the file, where the id is an absolute path. -/
def directory? (a : Artifact) : Option Path :=
  let p := withoutQuery a.fileId
  if p.isAbsolute then p.parent? else none

end Artifact

end DeckPress
