import DeckPress.Disk.Path

/-!
# The disk

What the library knows of the file system: directories, files with their bytes, and symbolic links,
each at a location, the list of names that lead to it from the root. The disk is a value: reading is a
function of it, and writing gives a new one.

A path is walked name by name from the working directory or the root, as an operating system does it:
each name but the last must lead to a directory, two dots lead back to the parent of the directory
reached so far, and a link is replaced by its target.
-/

namespace DeckPress

open Text

/-- The names that lead from the root to a place. -/
abbrev Location := List String

/-- What stands at a location. -/
inductive Entry where
  | directory
  | file (bytes : ByteArray)
  | link (target : Path)
  deriving Inhabited

/-- Why the disk refuses an operation. -/
inductive IoError where
  | notFound
  | notDirectory
  | isDirectory
  | alreadyExists
  | tooManyLinks
  | nameTooLong
  | zeroInName
  | invalidUtf8
  deriving DecidableEq, Repr, Inhabited

namespace IoError

/-- The wording of the operating system, with its number where there is one. -/
def message : IoError → String
  | .notFound => "No such file or directory (os error 2)"
  | .notDirectory => "Not a directory (os error 20)"
  | .isDirectory => "Is a directory (os error 21)"
  | .alreadyExists => "File exists (os error 17)"
  | .tooManyLinks => "Too many levels of symbolic links (os error 40)"
  | .nameTooLong => "File name too long (os error 36)"
  | .zeroInName => "file name contained an unexpected NUL byte"
  | .invalidUtf8 => "stream did not contain valid UTF-8"

end IoError

/-- A file system and a working directory. The root is always a directory and has no entry. -/
structure Disk where
  entries : List (Location × Entry) := []
  workingDirectory : Location := []
  deriving Inhabited

namespace Disk

/-- What stands at a location, links not followed. -/
def entry? (d : Disk) (l : Location) : Option Entry :=
  if l.isEmpty then some .directory else d.entries.lookup l

/-- The pieces of a path that are walked: names, and dots. A slash at the end asks for a directory, as
a dot there does. -/
def walkPieces (p : Path) : List String :=
  let pieces := (splitOn (· = '/') p.chars).filter (!·.isEmpty)
  (pieces.map String.ofList) ++ if p.chars.getLast? = some '/' then ["."] else []

/-- The place from which a path is walked. -/
def walkStart (d : Disk) (p : Path) : Location := if p.isAbsolute then [] else d.workingDirectory

/-- Walks on from a location. A link is handed on to `follow`, with the place where its target starts
and all that is to be walked from there. -/
def walkNames (d : Disk) (follow : Location → List String → Except IoError Location) (l : Location) :
    List String → Except IoError Location
  | [] => .ok l
  | piece :: rest =>
    match d.entry? l with
    | some .directory =>
      if piece = "." then d.walkNames follow l rest
      else if piece = ".." then d.walkNames follow l.dropLast rest
      else if 255 < piece.utf8ByteSize then .error .nameTooLong
      else
        match d.entry? (l ++ [piece]) with
        | none => .error .notFound
        | some (.link target) =>
          follow (if target.isAbsolute then [] else l) (walkPieces target ++ rest)
        | some _ => d.walkNames follow (l ++ [piece]) rest
    | some _ => .error .notDirectory
    | none => .error .notFound

/-- Walks on from a location. At most `links` links are followed. -/
def walk (d : Disk) : Nat → Location → List String → Except IoError Location
  | 0 => d.walkNames fun _ _ => .error .tooManyLinks
  | links + 1 => d.walkNames (d.walk links)

/-- Where a path of any length leads; an error if nothing stands there. -/
def resolve (d : Disk) (p : Path) : Except IoError Location :=
  if p.text.isEmpty then .error .notFound
  else if p.chars.contains '\x00' then .error .zeroInName
  else do
    let l ← d.walk 40 (d.walkStart p) (walkPieces p)
    match d.entry? l with
    | some _ => .ok l
    | none => .error .notFound

/-- How many bytes a path may have that is given to the operating system as a whole. -/
def maxPathBytes : Nat := 4095

/-- Refuses paths that cannot be given to the operating system. -/
def checkPath (p : Path) : Except IoError Unit :=
  if p.chars.contains '\x00' then .error .zeroInName
  else if maxPathBytes < p.text.utf8ByteSize then .error .nameTooLong
  else .ok ()

/-- Where a path leads; an error if nothing stands there. -/
def locate (d : Disk) (p : Path) : Except IoError Location := do
  checkPath p
  d.resolve p

/-- The absolute path of a location. -/
def pathOf (l : Location) : Path := ⟨"/" ++ String.intercalate "/" l⟩

/-- The absolute path without links and dots. It is found name by name, so the path may be long. -/
def canonicalize (d : Disk) (p : Path) : Except IoError Path := (d.resolve p).map pathOf

/-- What a path leads to. -/
def find? (d : Disk) (p : Path) : Option Entry :=
  match d.locate p with
  | .ok l => d.entry? l
  | .error _ => none

def exists? (d : Disk) (p : Path) : Bool := (d.find? p).isSome

def isFile (d : Disk) (p : Path) : Bool :=
  match d.find? p with
  | some (.file _) => true
  | _ => false

def isDirectory (d : Disk) (p : Path) : Bool :=
  match d.find? p with
  | some .directory => true
  | _ => false

/-- The bytes of a file. -/
def readBytes (d : Disk) (p : Path) : Except IoError ByteArray := do
  let l ← d.locate p
  match d.entry? l with
  | some (.file bytes) => .ok bytes
  | some .directory => .error .isDirectory
  | _ => .error .notFound

/-- The text of a file, which must be UTF-8. -/
def readText (d : Disk) (p : Path) : Except IoError String := do
  match String.fromUTF8? (← d.readBytes p) with
  | some s => .ok s
  | none => .error .invalidUtf8

/-- The names in a directory, in order. -/
def namesIn (d : Disk) (l : Location) : List String :=
  let names := d.entries.filterMap fun (k, _) =>
    if k.length = l.length + 1 && k.take l.length = l then k.getLast? else none
  names.mergeSort fun a b => a < b || a = b

/-! ## Writing -/

/-- Puts an entry at a location. -/
def put (d : Disk) (l : Location) (e : Entry) : Disk :=
  { d with entries := d.entries.filter (·.1 ≠ l) ++ [(l, e)] }

/-- The place where something new is to stand, whose directory must exist. Two dots, and a dot between
slashes or at the end, are the names of something that is there. -/
def placeFor (d : Disk) (p : Path) : Except IoError Location := do
  checkPath p
  let pieces := (splitOn (· = '/') p.chars).filter (!·.isEmpty) |>.map String.ofList
  match pieces.getLast? with
  | none => .error (if p.text.isEmpty then .notFound else .alreadyExists)
  | some name =>
    let l ← d.walk 40 (d.walkStart p) pieces.dropLast
    match d.entry? l with
    | some .directory =>
      if name = "." || name = ".." then .error .alreadyExists
      else if 255 < name.utf8ByteSize then .error .nameTooLong
      else .ok (l ++ [name])
    | some _ => .error .notDirectory
    | none => .error .notFound

/-- Makes a directory where nothing stands. -/
def makeDirectory (d : Disk) (p : Path) : Except IoError Disk := do
  let l ← d.placeFor p
  if (d.entry? l).isSome then .error .alreadyExists else .ok (d.put l .directory)

/-- Whether a directory is missing on the way to a path. -/
def lacksPlaceFor (d : Disk) (p : Path) : Bool :=
  match d.placeFor p with
  | .error .notFound => true
  | _ => false

/-- Writes a file, whose directory must exist. -/
def write (d : Disk) (p : Path) (bytes : ByteArray) : Except IoError Disk := do
  match d.locate p with
  | .ok l =>
    match d.entry? l with
    | some .directory => .error .isDirectory
    | _ => .ok (d.put l (.file bytes))
  | .error .notFound =>
    let l ← d.placeFor p
    if p.chars.getLast? = some '/' then .error .isDirectory else .ok (d.put l (.file bytes))
  | .error e => .error e

def writeText (d : Disk) (p : Path) (s : String) : Except IoError Disk := d.write p s.toUTF8

/-- Work on the disk that may fail. What was done before an error remains done. -/
abbrev Work (ε : Type) := ExceptT ε (StateM Disk)

/-- An operation that may fail, and then changes nothing. -/
def change {ε : Type} (f : Disk → Except ε Disk) : Work ε Unit := do
  match f (← get) with
  | .ok d => set d
  | .error e => throw e

/-- Creates a directory and the missing ones above it. -/
def createDirectories (p : Path) : Work IoError Unit := go p.ancestors
where
  /-- Takes a path with all its parents, nearest first. The last has none and needs no directory. -/
  go : List Path → Work IoError Unit
    | [] => return
    | q :: above => do
      if above.isEmpty then return
      if (← get).lacksPlaceFor q then go above
      change fun d =>
        match d.makeDirectory q with
        | .error e => if d.isDirectory q then .ok d else .error e
        | made => made

/-- Removes a place and all below it. -/
def removeTree (d : Disk) (l : Location) : Disk :=
  { d with entries := d.entries.filter fun (k, _) => !l.isPrefixOf k }

/-- The files below a location, in order, with their paths relative to it. -/
def filesBelow (d : Disk) (l : Location) : List (String × ByteArray) :=
  let found := d.entries.filterMap fun (k, e) =>
    match e with
    | .file bytes =>
      if l.length < k.length && l.isPrefixOf k then
        some (String.intercalate "/" (k.drop l.length), bytes)
      else none
    | _ => none
  found.mergeSort fun a b => a.1 < b.1 || a.1 = b.1

end Disk

end DeckPress
