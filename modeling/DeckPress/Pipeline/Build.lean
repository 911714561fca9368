import DeckPress.Pipeline.Run

/-!
# Full builds

A full build runs every shown slide and every file that is scanned for utility classes, then generates the
modules and the stylesheet. A file that fails is recorded, and the others are built nevertheless; a deck
that fails is recorded as a file, and the build goes on without slides. Errors that concern the project
stop the build.
-/

namespace DeckPress

open Text

/-- A file that could not be built. -/
structure BuildFailure where
  fileId : String
  message : String
  deriving DecidableEq, Repr

/-- What a full build yields. -/
structure Build where
  artifacts : List Artifact
  failures : List BuildFailure
  /-- The generated modules, in the order of their ids. -/
  modules : List (ModuleId × String)
  stylesheet : String
  deriving Repr

namespace Build

/-- All degradations, each with the file it belongs to. -/
def degradations (b : Build) : List (String × Degradation) :=
  b.artifacts.flatMap fun a => a.degradations.map (a.fileId, ·)

end Build

namespace Pipeline

/-- A file to be built, with its text if it can be read. -/
structure Job where
  fileId : String
  source : Except IoError String

/-- The jobs for the shown slides. -/
def slideJobs (deck : Presentation) : Except Error (List Job) :=
  deck.visible.mapM fun (number, s) => do
    let id := ModuleId.text (.slide number)
    return ⟨id, .ok (← s.markdown id)⟩

/-- The files that are scanned, without the deck. -/
def scannedFiles (p : Pipeline) (d : Disk) : List Path :=
  (p.scope.files d).filter fun file => !(file == p.layout.entry)

/-- The jobs for the scanned files. -/
def fileJobs (p : Pipeline) (d : Disk) : List Job :=
  (p.scannedFiles d).map fun file => ⟨file.text, d.readText file⟩

/-- Does a job. Its result is an artifact or an error. -/
def runJob (p : Pipeline) (d : Disk) (job : Job) : StateM State (Except Error Artifact) :=
  match job.source with
  | .ok source => (p.transform d job.fileId source).run
  | .error cause => return .error (.compile job.fileId (.unreadable cause))

/-- The results of jobs, taken apart; the first error that stops a build stops this. -/
def sortResults : List (String × Except Error Artifact) → Except Error (List Artifact × List BuildFailure)
  | [] => .ok ([], [])
  | (_, .ok a) :: rest => (sortResults rest).map fun (as, fs) => (a :: as, fs)
  | (fileId, .error e) :: rest =>
    if e.isFatal then .error e
    else (sortResults rest).map fun (as, fs) => (as, ⟨fileId, e.message⟩ :: fs)

/-- The presentation for a build; if it cannot be read, the failure of the deck. -/
def deckForBuild (p : Pipeline) (d : Disk) : Work (Option Presentation × List BuildFailure) := do
  match ← ExceptT.lift (p.presentation d).run with
  | .ok deck => return (some deck, [])
  | .error e =>
    if e.isFatal then throw e
    return (none, [⟨p.layout.entry.text, e.message⟩])

/-- The modules that come from the deck. -/
def deckModules (p : Pipeline) (d : Disk) : Work (List (ModuleId × String)) := do
  let loaded ← ModuleId.deckModules.mapM fun m => do
    return (← p.load d m.text).map (m, ·)
  return loaded.filterMap id

/-- The wrappers of elements that artifacts import. -/
def elementModules (artifacts : List Artifact) : List (ModuleId × String) :=
  Component.Element.names.filterMap fun element =>
    let m := ModuleId.element element
    let needle := '\'' :: m.text.toList ++ ['\'']
    if artifacts.any fun a => containsText needle a.code.toList then
      some (m, Component.Element.moduleCode element)
    else none

/-- Builds the whole project. -/
def fullBuild (p : Pipeline) (d : Disk) : Work Build := do
  modify fun s => { s.invalidate with collection := s.collection.reset }
  let (deck, deckFailures) ← p.deckForBuild d
  let slides ← match deck with
    | some deck => ExceptT.mk (pure (slideJobs deck))
    | none => pure []
  let results ← (slides ++ p.fileJobs d).mapM fun job => do
    return (job.fileId, ← ExceptT.lift (p.runJob d job))
  let (artifacts, failures) ← ExceptT.mk (pure (sortResults results))
  let fromDeck ← if deck.isSome then p.deckModules d else pure []
  let modules := (ModuleId.sharedState, (← get).shared.moduleCode) ::
    fromDeck ++ elementModules artifacts
  return {
    artifacts
    failures := deckFailures ++ failures
    modules := modules.mergeSort fun a b => a.1.text ≤ b.1.text
    stylesheet := p.stylesheet (← get) }

end Pipeline

end DeckPress
