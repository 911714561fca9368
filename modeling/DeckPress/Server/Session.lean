import DeckPress.Pipeline.Build
import DeckPress.Server.File

/-!
# Server sessions

A server keeps one project built while its files change. A change of a source file runs that file again;
a change of the deck runs all its slides; a change of theme or of the configuration of utility classes
makes a new pipeline, which is built from scratch. The shared state lasts as long as the session.

Errors of a single run are reported elsewhere and do not stop the session: a step that fails leaves the
rest of its batch to be done or not, as each step says.
-/

namespace DeckPress

/-- A session. -/
structure Session where
  project : Project
  pipeline : Pipeline
  state : Pipeline.State
  /-- The version that was given out last. -/
  version : Nat := 0

namespace Session

/-- Starts a session of a project, whose deck must be a file. -/
def start (d : Disk) (r : Project) (sync : Bool) : Except Error Session := do
  d.requireFile r.entry
  return {
    project := r
    pipeline := ← Pipeline.assemble d r
    state := { shared := .initial sync } }

/-- Work of the pipeline in use. -/
def onPipeline {α : Type} (f : Pipeline → Pipeline.Work α) : ExceptT Error (StateM Session) α := do
  let s ← get
  let (result, state) := ((f s.pipeline).run).run s.state
  set { s with state }
  ExceptT.mk (pure result)

/-- A new version number. -/
def nextVersion : StateM Session Nat := do
  modify fun s => { s with version := s.version + 1 }
  return (← get).version

/-- The code of a file. A run overtaken by a newer version yields code all the same. -/
def transform (d : Disk) (fileId source : String) : ExceptT Error (StateM Session) String := do
  let version ← nextVersion
  match ← onPipeline (·.transformVersion d fileId version source) with
  | .emitted a => return a.code
  | .superseded => return (← onPipeline (·.preview d fileId source)).code

/-- Goes on after an error. -/
def ignoring {α : Type} (f : ExceptT Error (StateM Session) α) : StateM Session Unit := do
  let _ ← f.run

/-- Builds the project from scratch. -/
def rebuild (d : Disk) : StateM Session Unit := ignoring (onPipeline (·.fullBuild d))

/-- Runs all shown slides again. -/
def rescanSlides (d : Disk) : StateM Session Unit :=
  ignoring do
    let deck ← onPipeline (·.presentation d)
    for (number, s) in deck.visible do
      let id := ModuleId.text (.slide number)
      ExceptT.lift <| ignoring do
        transform d id (← ExceptT.mk (pure (s.markdown id)))

/-- Runs a changed file again. -/
def rescanFile (d : Disk) (file : Path) : StateM Session Unit := do
  let s ← get
  if file == s.pipeline.layout.entry then rescanSlides d
  else if d.isFile file && s.pipeline.scope.covers file.text then
    match d.readText file with
    | .ok source => ignoring (transform d file.text source)
    | .error _ => return

/-- Makes a new pipeline and builds the project with it. If that cannot be done the old one stays. -/
def reassemble (d : Disk) : StateM Session Unit := do
  let s ← get
  match Pipeline.assemble d s.project with
  | .ok pipeline =>
    set { s with pipeline, state := { shared := s.state.shared : Pipeline.State } }
    rebuild d
  | .error _ => return

/-- Follows a batch of changes. -/
def handleChanges (d : Disk) (changed : List Path) : StateM Session Unit := do
  let s ← get
  match s.pipeline.needsReassemblyFor d changed with
  | .ok true => reassemble d
  | .ok false =>
    set { s with state := s.state.invalidate }
    for file in changed do
      rescanFile d file
  | .error _ => return

/-- The page that starts the application. -/
def indexPage : String :=
  "<!DOCTYPE html>\n<html>\n<head>\n<meta charset=\"UTF-8\">\n" ++
  "<meta name=\"viewport\" content=\"width=device-width, initial-scale=1.0\">\n</head>\n" ++
  "<body>\n<div id=\"app\"></div>\n<script type=\"module\" src=\"/@slidev/entry\"></script>\n" ++
  "</body>\n</html>\n"

/-- The directories that files are served from. -/
def servedRoots (p : Pipeline) : List Path :=
  [p.layout.deckRoot, p.layout.themeRoot, p.layout.clientRoot, p.options.assets.cacheDir]

/-- The file that a request path stands for: an absolute path behind a mark, or a path below the deck's
directory. A path that leads upwards stands for none. -/
def requestedFile? (p : Pipeline) (path : String) : Option Path :=
  if (Text.splitOn (· = '/') path.toList).contains ['.', '.'] then none
  else
    match Text.stripPrefix? "/@fs".toList path.toList with
    | some file => some ⟨String.ofList file⟩
    | none => some (p.layout.deckRoot / String.ofList (path.toList.dropWhile (· = '/')))

/-- What is served: bytes and their media type. -/
structure Content where
  bytes : ByteArray
  contentType : String

/-- Content from text. -/
def Content.ofText (text contentType : String) : Content := ⟨text.toUTF8, contentType⟩

/-- Serves a generated module. The markdown of a slide is run like a file. -/
def serveModule (d : Disk) (module : ModuleId) (path : String) :
    ExceptT Error (StateM Session) (Option Content) := do
  match ← onPipeline (·.load d path) with
  | none => return none
  | some code =>
    match module with
    | .slide _ => return some (.ofText (← transform d module.text code) Server.scriptType)
    | .stylesheet => return some (.ofText code "text/css")
    | _ => return some (.ofText code Server.scriptType)

/-- Serves a file: as it is stored, or what a run makes of it. -/
def serveFile (d : Disk) (file : Path) : ExceptT Error (StateM Session) (Option Content) := do
  let p := (← get).pipeline
  if !d.isFile file || !Server.isServable d (servedRoots p) file then return none
  let contentType := Server.contentType file
  if FileKind.ofId file.text = .other then
    let bytes ← ExceptT.mk (pure ((d.readBytes file).mapError .read))
    return some ⟨bytes, contentType⟩
  else
    let source ← ExceptT.mk (pure ((d.readText file).mapError .read))
    return some (.ofText (← transform d file.text source) contentType)

/-- What is served under a path; none if there is nothing. -/
def servePath (d : Disk) (path : String) : ExceptT Error (StateM Session) (Option Content) := do
  if path = "/" || path = "/index.html" then return some (.ofText indexPage "text/html")
  match ModuleId.parse? path with
  | some module => serveModule d module path
  | none =>
    match requestedFile? (← get).pipeline path with
    | some file => serveFile d file
    | none => return none

end Session

end DeckPress
