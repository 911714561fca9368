import DeckPress.Error

/-!
# Checks on paths

What the library demands of paths given from outside, as errors of its own.
-/

namespace DeckPress.Disk

/-- What is wrong with a path that should lead to a file. -/
def fileFault? (d : Disk) (p : Path) : Option EntryFault :=
  if !d.exists? p then some (.missing p)
  else if !d.isFile p then some (.notFile p)
  else none

/-- Demands that a path leads to a file. -/
def requireFile (d : Disk) (p : Path) : Except Error Unit :=
  match d.fileFault? p with
  | some fault => .error fault.error
  | none => .ok ()

/-- The absolute path without links and dots, of something that exists. -/
def absolutePath (d : Disk) (p : Path) : Except Error Path :=
  (d.canonicalize p).mapError fun cause => .validation (.noAbsolutePath p cause)

/-- The first place above `start`, itself included, where a relative path leads to something. -/
def findUpwards? (d : Disk) (start relative : Path) : Option Path :=
  (start.ancestors.map fun dir => dir / relative.text).find? d.exists?

/-- Creates a directory where there is nothing. -/
def ensureDirectory (p : Path) : Work Error Unit := do
  let d ← get
  if !d.exists? p then (createDirectories p).adapt .read
  else if !d.isDirectory p then throw (.validation (.notDirectory p))

/-- Creates the directory that a file is to stand in. -/
def ensureParent (p : Path) : Work Error Unit := do
  match p.parent? with
  | some dir => ensureDirectory dir
  | none => return

/-- Writes a file and creates its directory where needed. -/
def writeFile (p : Path) (text : String) : Work Error Unit := do
  ensureParent p
  change fun d => (d.writeText p text).mapError .read

end DeckPress.Disk
