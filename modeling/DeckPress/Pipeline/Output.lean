import DeckPress.Pipeline.Build

/-!
# Writing a build

Each artifact, failure and module of a build has a file of its own: slides and other files in directories
of their kind, compiled markdown with a further extension, failures with the extension of errors, and
modules under their output names. The stylesheet stands beside them.
-/

namespace DeckPress

open Text

namespace Build

/-- Where an artifact goes, relative to the output directory. -/
def outputPath (fileId : String) (deckRoot : Path) : Path :=
  match ModuleId.parse? fileId with
  | some (.slide number) => ⟨"slides/" ++ toString number ++ ".md"⟩
  | _ =>
    match (Path.mk fileId).stripPrefix? deckRoot with
    | some rest => Path.mk "files" / rest.text
    | none => Path.mk "files" / String.ofList (fileId.toList.dropWhile (· = '/'))

/-- The files of a build in an output directory, with their texts. -/
def outputs (b : Build) (dir deckRoot : Path) : List (Path × String) :=
  let place (fileId : String) : Path := dir / (outputPath fileId deckRoot).text
  (b.artifacts.map fun a =>
    (if a.fromMarkdown then (place a.fileId).withSuffix "vue" else place a.fileId, a.code)) ++
  (b.failures.map fun f => ((place f.fileId).withSuffix "error", f.message)) ++
  (b.modules.map fun (m, code) => (dir / "modules" / m.outputName, code)) ++
  [(dir / "windi.css", b.stylesheet)]

/-- Writes a build, and tells which files were written. -/
def write (b : Build) (dir deckRoot : Path) : Disk.Work Error (List Path) := do
  Disk.ensureDirectory dir
  (b.outputs dir deckRoot).mapM fun (file, text) => do
    Disk.writeFile file text
    return file

end Build

end DeckPress
