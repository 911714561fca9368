import DeckPress.CommandLine.Run
import DeckPress.Server.Change

/-!
# The program

Takes in the disk, runs the command, and writes back what the command wrote. The program sees the working
directory, whatever the command line and the environment name, and the package directories above them.

A session is kept up by looking at the files again and again; it is not served to a browser from here.
-/

namespace DeckPress.Program

open Text

/-- The location that a full path leads to. -/
def locationOf (path : String) : Location :=
  ((splitOn (· = '/') path.toList).filter (!·.isEmpty)).map String.ofList

def pathText (l : Location) : String := (Disk.pathOf l).text

/-- Takes in what stands at a location, unless it is known. Links are kept, and what they lead to is taken
in too. -/
partial def takeIn (d : Disk) (l : Location) : IO Disk := do
  if (d.entry? l).isSome && !l.isEmpty then return d
  let here := (← IO.currentDir) / pathText l
  match (← here.symlinkMetadata).type with
  | .dir =>
    let children ← here.readDir
    children.foldlM (fun d child => takeInOrSkip d (l ++ [child.fileName]))
      { d with entries := (l, .directory) :: d.entries }
  | .symlink =>
    let target := locationOf (← IO.FS.realPath here).toString
    takeInOrSkip { d with entries := (l, .link (Disk.pathOf target)) :: d.entries } target
  | _ => return { d with entries := (l, .file (← IO.FS.readBinFile here)) :: d.entries }
where
  /-- What cannot be read is not there. -/
  takeInOrSkip (d : Disk) (l : Location) : IO Disk := do
    try takeIn d l catch _ => return d

/-- Notes the directories above a location. -/
def noteAbove (d : Disk) (l : Location) : Disk :=
  (List.range l.length).foldl (fun d n =>
    let above := l.take n
    if (d.entry? above).isSome then d else { d with entries := (above, .directory) :: d.entries }) d

/-- Takes in a place with the package directories above it. -/
def takeInPlace (d : Disk) (l : Location) : IO Disk := do
  let packages := (List.range (l.length + 1)).map fun n => l.take n ++ ["node_modules"]
  let d ← (packages ++ [l]).foldlM (fun d l => takeIn.takeInOrSkip d l) d
  return noteAbove (packages.foldl noteAbove d) l

/-- The variables of the environment that are read. -/
def environmentNames : List String :=
  ["SLIDEV_ENTRY", "SLIDEV_THEME", "SLIDEV_CLIENT_ROOT", "SLIDEV_PORT", "SLIDEV_DEBOUNCE_MS"]

/-- Takes in the disk as far as the arguments and the environment reach. -/
def snapshot (arguments : List String) (environment : List (String × String)) : IO Disk := do
  let cwd := locationOf (← IO.FS.realPath (← IO.currentDir)).toString
  let mut d : Disk := { workingDirectory := cwd }
  let mut places := [cwd]
  for named in arguments ++ environment.map (·.2) do
    let value := ((splitAt? ['='] named.toList).map fun (_, v) => String.ofList v).getD named
    for text in [named, value] do
      if !text.isEmpty then
        -- of a file the directory is taken in
        let path : Path := Disk.pathOf cwd / text
        for p in [path] ++ path.parent?.toList do
          try
            let full := (← IO.currentDir) / p.text
            if ← full.isDir then
              places := places ++ [locationOf (← IO.FS.realPath full).toString]
              break
          catch _ => pure ()
  for place in places do
    d ← takeInPlace d place
  return d

/-- The files of a disk that differ from those of another, or are new. -/
def changedFiles (old new : Disk) : List (Location × ByteArray) :=
  new.entries.filterMap fun (l, e) =>
    match e, old.entry? l with
    | .file bytes, some (.file before) => if bytes == before then none else some (l, bytes)
    | .file bytes, _ => some (l, bytes)
    | _, _ => none

/-- The places at which two disks differ. -/
def changedPaths (old new : Disk) : List Path :=
  let gone := old.entries.filter fun (l, e) =>
    match e with
    | .file _ => (new.entry? l).isNone
    | _ => false
  ((changedFiles old new).map fun (l, _) => Disk.pathOf l) ++ gone.map fun (l, _) => Disk.pathOf l

/-- Writes back what a command wrote. -/
def writeBack (old new : Disk) : IO Unit := do
  for (l, e) in new.entries do
    match e, old.entry? l with
    | .directory, none => IO.FS.createDirAll (pathText l)
    | _, _ => pure ()
  for (l, bytes) in changedFiles old new do
    IO.FS.writeBinFile (pathText l) bytes

/-- Keeps a session up to date. -/
partial def watch (snapshot : IO Disk) (debounceMs : Nat) (old : Disk) (s : Session) : IO Unit := do
  IO.sleep (max debounceMs 1).toUInt32
  let new ← snapshot
  let changed := (changedPaths old new).filter Server.isRelevant
  let ordered := changed.foldl (fun acc p => Style.Scope.insertPath p acc) []
  let s := if ordered.isEmpty then s else ((Session.handleChanges new ordered).run s).2
  watch snapshot debounceMs new s

end DeckPress.Program

open DeckPress in
/-- Runs the program. -/
def main (arguments : List String) : IO UInt32 := do
  let environment ← Program.environmentNames.filterMapM fun name => do
    return (← IO.getEnv name).map (name, ·)
  let old ← Program.snapshot arguments environment
  let (activity, new) := (CommandLine.run arguments fun name => environment.lookup name).run old
  Program.writeBack old new
  match activity with
  | .finished r =>
    IO.print r.stdout
    IO.eprint r.stderr
    return r.exitCode.toUInt32
  | .serving s debounceMs =>
    IO.println ("Watching for changes in " ++ s.pipeline.layout.deckRoot.shown ++
      " (Press Ctrl+C to stop)")
    Program.watch (Program.snapshot arguments environment) debounceMs new s
    return 0
