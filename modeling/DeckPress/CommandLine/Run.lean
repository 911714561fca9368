import DeckPress.CommandLine.Arguments
import DeckPress.Options.Reader
import DeckPress.Pipeline.Output
import DeckPress.Server.Session
import DeckPress.Settings

/-!
# Running commands

What a command writes to the disk and to the terminal, and how it ends. What the command line leaves open
the environment decides. Serving a project goes on after the first build; all other commands end.
-/

namespace DeckPress.CommandLine

/-- How a command ends. -/
structure Report where
  stdout : String := ""
  stderr : String := ""
  exitCode : Nat := 0
  deriving Repr

/-- What a command comes to. -/
inductive Activity where
  | finished (r : Report)
  /-- A session that goes on, and how long it waits for further changes. -/
  | serving (s : Session) (debounceMs : Nat)

/-- The report of a run that an error ends. -/
def Report.failed (stdout : String) (e : Error) : Report where
  stdout := stdout
  stderr := "Error: " ++ e.message ++ "\n"
  exitCode := 1

/-- The report of a mistaken command line. -/
def Report.misused : Report where
  stderr := "error: unrecognized arguments\n\nFor more information, try '--help'.\n"
  exitCode := 2

def helpText : String :=
  "Usage: slidev-pipeline [COMMAND]\n\nCommands:\n" ++
  "  build   Transform the whole deck and write every output\n" ++
  "  module  Print one virtual module\n" ++
  "  dev     Watch the deck and serve it\n"

/-- The project that a command is about. -/
def projectOf (d : Disk) (a : DeckArguments) (s : Settings) : Except Error Project := do
  let overrides ← match a.options with
    | some file => Overrides.load d file
    | none => pure {}
  return {
    entry := a.entry.getD s.entry
    theme := a.theme <|> s.theme
    overrides := { overrides with clientRoot := overrides.clientRoot <|> s.clientRoot } }

/-- The lines that tell of failures and degradations. -/
def problems (b : Build) : String :=
  String.join (b.failures.map fun f => "Failed: " ++ f.fileId ++ ": " ++ f.message ++ "\n") ++
  String.join (b.degradations.map fun (file, e) => "Warning: " ++ file ++ ": " ++ e.message ++ "\n")

/-- The pipeline that a command starts with, and its state. -/
def assemble (d : Disk) (a : DeckArguments) (s : Settings) : Except Error (Pipeline × Pipeline.State) := do
  return (← Pipeline.assemble d (← projectOf d a s), { shared := .initial false })

/-- Builds a project and writes the build. -/
def runBuild (a : DeckArguments) (out : Path) (s : Settings) : StateM Disk Report := do
  let start := "Executing build command...\n"
  let d ← get
  let built := do
    let (p, state) ← assemble d a s
    let b ← ((p.fullBuild d).run.run state).1
    return (p, b)
  match built with
  | .error e => return .failed start e
  | .ok (p, b) =>
    match ← (b.write out p.layout.deckRoot).run with
    | .error e => return .failed start e
    | .ok written =>
      return {
        stdout := start ++ "Build finished: " ++ toString written.length ++ " files written to " ++
          out.shown ++ " (" ++ toString b.failures.length ++ " failed)\n"
        stderr := problems b }

/-- Shows a generated module. -/
def runModule (d : Disk) (a : DeckArguments) (id : String) (s : Settings) : Report :=
  let code := do
    let (p, state) ← assemble d a s
    match ← ((p.load d id).run.run state).1 with
    | some code => return code
    | none => throw (Error.resolution id .notGenerated)
  match code with
  | .error e => .failed "" e
  | .ok code => { stdout := code }

/-- Starts to serve a project. -/
def runDev (d : Disk) (a : DeckArguments) (debounceMs : Option Nat) (sync : Bool) (s : Settings) :
    Activity :=
  let session := do
    let r ← projectOf d a s
    Session.start d { r with clientRoot := r.overrides.clientRoot } sync
  match session with
  | .error e => .finished (.failed "" e)
  | .ok session => .serving ((Session.rebuild d).run session).2 (debounceMs.getD s.debounceMs)

/-- Runs a command. -/
def Command.run (s : Settings) : Command → StateM Disk Activity
  | .build a out => return .finished (← runBuild a out s)
  | .module a id => return .finished (runModule (← get) a id s)
  | .dev a _ debounceMs sync => return runDev (← get) a debounceMs sync s

/-- Does what a command line asks for. -/
def run (arguments : List String) (environment : String → Option String) : StateM Disk Activity :=
  match Invocation.parse? arguments with
  | none => return .finished .misused
  | some .nothing =>
    return .finished { stdout := "No command specified. Use --help for usage information.\n" }
  | some .help => return .finished { stdout := helpText }
  | some .version => return .finished { stdout := "slidev-pipeline\n" }
  | some (.command c) => c.run (.ofEnvironment environment)

end DeckPress.CommandLine
