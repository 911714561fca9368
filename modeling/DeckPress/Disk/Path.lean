import DeckPress.Text.Basic
import DeckPress.Text.Case

/-!
# Paths

A path is kept as it was written, because messages and generated imports show it so. Everything else
goes by its components: empty pieces between slashes do not count, nor does a dot, except one that
starts a relative path. Two paths are equal when their components are, and paths are ordered by them.
-/

namespace DeckPress

open Text

/-- A piece of a path. -/
inductive PathComponent where
  /-- The slash that starts an absolute path. -/
  | root
  /-- A dot that starts a relative path. -/
  | current
  /-- Two dots. -/
  | parent
  | name (s : String)
  deriving DecidableEq, Repr, Inhabited

/-- Roots come before dots, dots before names. -/
def PathComponent.rank : PathComponent → Nat
  | .root => 0
  | .current => 1
  | .parent => 2
  | .name _ => 3

def PathComponent.lt : PathComponent → PathComponent → Bool
  | .name a, .name b => a < b
  | c, d => c.rank < d.rank

/-- A path as written. -/
structure Path where
  text : String
  deriving Repr, Inhabited

namespace Path

def chars (p : Path) : List Char := p.text.toList

def isAbsolute (p : Path) : Bool := p.chars.head? = some '/'

def isRelative (p : Path) : Bool := !p.isAbsolute

/-- What the piece between two slashes means behind the first component. -/
def component? (piece : List Char) : Option PathComponent :=
  if piece.isEmpty || piece = ['.'] then none
  else if piece = ['.', '.'] then some .parent
  else some (.name (String.ofList piece))

/-- The components of a path, from left to right. -/
def components (p : Path) : List PathComponent :=
  let pieces := splitOn (· = '/') p.chars
  if p.isAbsolute then .root :: pieces.filterMap component?
  else
    match pieces with
    | ['.'] :: rest => .current :: rest.filterMap component?
    | _ => pieces.filterMap component?

instance : BEq Path := ⟨fun p q => p.components == q.components⟩

/-- The order of paths: component by component, a beginning first. -/
def lexLt : List PathComponent → List PathComponent → Bool
  | _, [] => false
  | [], _ :: _ => true
  | c :: cs, d :: ds => if c == d then lexLt cs ds else PathComponent.lt c d

def lt (p q : Path) : Bool := lexLt p.components q.components

/-- Appends a path. An absolute one replaces what it is appended to. -/
def join (p : Path) (s : String) : Path :=
  if s.toList.head? = some '/' || p.text.isEmpty then ⟨s⟩
  else if p.chars.getLast? = some '/' then ⟨p.text ++ s⟩
  else ⟨p.text ++ "/" ++ s⟩

instance : HDiv Path String Path := ⟨join⟩

/-- Drops slashes, and dots between slashes, from the end; the text is reversed. -/
def dropTail : List Char → List Char
  | '/' :: rest => if rest.isEmpty then ['/'] else dropTail rest
  | '.' :: '/' :: rest => if rest.isEmpty then ['/'] else dropTail rest
  | s => s

/-- Drops slashes, and dots before slashes, from the start. -/
def dropHead : List Char → List Char
  | '/' :: rest => dropHead rest
  | '.' :: '/' :: rest => dropHead rest
  | ['.'] => []
  | s => s

/-- The path without its last component; none for a root and for the empty path. -/
def parent? (p : Path) : Option Path :=
  match p.components.getLast? with
  | none => none
  | some .root => none
  | some _ =>
    let s := (dropTail p.chars.reverse).dropWhile (· ≠ '/')
    some ⟨String.ofList (dropTail s).reverse⟩

/-- The last component, if it is a name. -/
def fileName? (p : Path) : Option String :=
  match p.components.getLast? with
  | some (.name s) => some s
  | _ => none

/-- A file name before and after its last dot. A dot that starts the name does not count. -/
def splitName (name : String) : String × Option String :=
  match splitAtLast? ['.'] name.toList with
  | some (stem, ext) => if stem.isEmpty then (name, none) else (String.ofList stem, some (String.ofList ext))
  | none => (name, none)

def stem? (p : Path) : Option String := p.fileName?.map fun n => (splitName n).1

def extension? (p : Path) : Option String := p.fileName?.bind fun n => (splitName n).2

/-- The extension in lower case, empty where there is none. -/
def extension (p : Path) : String :=
  match p.extension? with
  | some e => String.ofList (lowercase e.toList)
  | none => ""

/-- The path and all its parents, nearest first. -/
def ancestors (p : Path) : List Path := go (p.components.length + 1) p
where
  /-- Follows parents at most `fuel` times; a path has no more ancestors than components. -/
  go : Nat → Path → List Path
    | 0, p => [p]
    | fuel + 1, p =>
      match p.parent? with
      | some q => p :: go fuel q
      | none => [p]

/-- What is left of a component list behind another. -/
def stripComponents? : List PathComponent → List PathComponent → Option (List PathComponent)
  | [], cs => some cs
  | _ :: _, [] => none
  | b :: bs, c :: cs => if b == c then stripComponents? bs cs else none

def startsWith (p base : Path) : Bool := (stripComponents? base.components p.components).isSome

/-- Drops the first piece of a text, with the slash behind it. -/
def dropPiece (s : List Char) : List Char := (s.dropWhile (· ≠ '/')).drop 1

/-- Drops `n` components from the start of a text. -/
def dropComponents : Nat → List Char → List Char
  | 0, s => s
  | n + 1, s => dropComponents n (dropPiece (dropHead s))

/-- The path relative to `base`, as it is written behind it; none if it does not start with `base`. -/
def stripPrefix? (p base : Path) : Option Path := do
  let rest ← stripComponents? base.components p.components
  let dropped := p.components.length - rest.length
  if dropped = 0 then
    return ⟨String.ofList (dropTail p.chars.reverse).reverse⟩
  else
    -- a root or a dot in front is one character
    let s := match p.components.head? with
      | some .root | some .current => dropComponents (dropped - 1) (p.chars.drop 1)
      | _ => dropComponents dropped p.chars
    return ⟨String.ofList (dropTail (dropHead s).reverse).reverse⟩

/-- The path with forward slashes only, as module specifiers want it. -/
def slashed (p : Path) : String := String.ofList (p.chars.map fun c => if c = '\\' then '/' else c)

/-- Adds a further extension to the written path. -/
def withSuffix (p : Path) (extension : String) : Path := ⟨p.text ++ "." ++ extension⟩

end Path

end DeckPress
