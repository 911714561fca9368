import DeckPress.Pipeline.Basic

/-!
# Running a file

A file goes through the stages in a fixed order: markdown becomes a component, brace marks are taken out,
components are imported, utility classes are noted, and remote assets are replaced. What a run notes
reaches the collection when the run is finished; a run of a version that is no longer the latest is
discarded, and a preview leaves no trace.
-/

namespace DeckPress

/-- The stages of a pipeline. -/
inductive Stage where
  | markdown
  | escape
  | components
  | styles
  | assets
  /-- Generated modules have no part in the run of a file. -/
  | modules
  deriving DecidableEq, Repr

namespace Stage

/-- The stages in the order they are run. -/
def order : List Stage := [.markdown, .escape, .components, .styles, .assets, .modules]

def name : Stage → String
  | .markdown => "slidev:markdown"
  | .escape => "slidev:escape"
  | .components => "slidev:components"
  | .styles => "slidev:windicss"
  | .assets => "slidev:remote-assets"
  | .modules => "slidev:virtual-modules"

end Stage

/-- A file in the middle of a run: what it has become, and the scan that notes its classes. -/
structure Draft where
  artifact : Artifact
  scan : Option Style.Scan := none
  deriving Repr

/-- When what a run noted is kept. -/
inductive Commit where
  | always
  /-- Only as long as this version is the latest of its file. -/
  | ifCurrent (version : Nat)
  | never
  deriving DecidableEq, Repr

/-- What the run of a version comes to. -/
inductive Outcome where
  | emitted (artifact : Artifact)
  /-- There is a newer version of the file. -/
  | superseded
  deriving Repr

namespace Pipeline

/-- Compiles markdown. -/
def compileMarkdown (p : Pipeline) (a : Artifact) : Except Error Artifact :=
  if a.kind = .markdown then do
    let code ← (Component.compile p.options.markdown a.code).mapError (.compile a.fileId)
    return { a with code, kind := .script, fromMarkdown := true }
  else .ok a

/-- Replaces remote assets. -/
def rewriteAssets (p : Pipeline) (d : Disk) (a : Artifact) : Artifact :=
  let (code, degradations) := p.rewriter.rewrite (p.cache d) a.code
  { a with code, degradations := a.degradations ++ degradations }

/-- Runs one stage. -/
def runStage (p : Pipeline) (d : Disk) (draft : Draft) : Stage → Work Draft
  | .markdown => do
    return { draft with artifact := ← ExceptT.mk (pure (p.compileMarkdown draft.artifact)) }
  | .escape => return { draft with artifact := Component.Brace.apply draft.artifact }
  | .components => do
    let (artifact, listings) := p.importer.apply d draft.artifact (← get).listings
    modify fun s => { s with listings }
    return { draft with artifact }
  | .styles => do
    let a := draft.artifact
    if p.scope.covers a.fileId then
      let (scan, collection) := (← get).collection.begin a.fileId
      modify fun s => { s with collection }
      return { draft with scan := some (scan.record p.vocabulary a.code) }
    else return draft
  | .assets => return { draft with artifact := p.rewriteAssets d draft.artifact }
  | .modules => return draft

/-- Runs all stages. -/
def draft (p : Pipeline) (d : Disk) (fileId source : String) : Work Draft :=
  Stage.order.foldlM (p.runStage d) { artifact := .ofSource fileId source }

/-- Whether a run keeps what it noted. -/
def keeps (s : State) (fileId : String) : Commit → Bool
  | .always => true
  | .ifCurrent version => s.versions.lookup fileId = some version
  | .never => false

/-- Ends a run. -/
def finish (commit : Commit) (draft : Draft) : StateM State Outcome := do
  let s ← get
  let kept := keeps s draft.artifact.fileId commit
  let collection := match draft.scan with
    | some scan => if kept then s.collection.commit scan else s.collection.leave
    | none => s.collection
  set { s with collection }
  match commit with
  | .ifCurrent _ => return if kept then .emitted draft.artifact else .superseded
  | _ => return .emitted draft.artifact

/-- Runs a file and keeps what it noted. -/
def transform (p : Pipeline) (d : Disk) (fileId source : String) : Work Artifact := do
  let draft ← p.draft d fileId source
  let _ ← finish .always draft
  return draft.artifact

/-- Runs a file and keeps nothing. -/
def preview (p : Pipeline) (d : Disk) (fileId source : String) : Work Artifact := do
  let draft ← p.draft d fileId source
  let _ ← finish .never draft
  return draft.artifact

/-- Notes a version of a file; false if there is a newer one. -/
def submit (fileId : String) (version : Nat) : StateM State Bool := do
  let s ← get
  if ((s.versions.lookup fileId).getD version) ≤ version then
    set { s with versions := insertSorted fileId version s.versions }
    return true
  else return false

/-- Runs a version of a file. -/
def transformVersion (p : Pipeline) (d : Disk) (fileId : String) (version : Nat) (source : String) :
    Work Outcome := do
  if ← submit fileId version then
    finish (.ifCurrent version) (← p.draft d fileId source)
  else return .superseded

end Pipeline

end DeckPress
