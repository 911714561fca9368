import DeckPress.Disk.Basic
import DeckPress.Glob.Pattern

/-!
# Finding files by pattern

A pattern is walked component by component. A component without special characters leads on to one
place; any other is compared with the names in the directory reached so far. Results come in the order
of a walk that visits a directory before what lies in it, and names in their order.
-/

namespace DeckPress.Disk

open Text Glob

/-- A directory is looked into at its own place. -/
def childrenOf (d : Disk) (p : Path) : List Path :=
  match d.locate p with
  | .ok l => (d.namesIn l).map fun n => if p == (⟨"."⟩ : Path) then ⟨n⟩ else p / n
  | .error _ => []

/-- The path one component further. -/
def stepTo (p : Path) (name : String) : Path := if p == (⟨"."⟩ : Path) then ⟨name⟩ else p / name

mutual

/-- The places that the components lead to from the directory `p`. -/
def findFrom (d : Disk) : Nat → Path → List Pattern → List Path
  | 0, _, _ => []
  | _ + 1, _, [] => []
  | fuel + 1, p, c :: cs =>
    match c.literal? with
    | some name =>
      let next := stepTo p name
      let there := if name = "." || name = ".." then d.isDirectory p else d.exists? next
      if !there then [] else if cs.isEmpty then [next] else findFrom d fuel next cs
    | none =>
      if d.isDirectory p then
        -- a leading dot may also stand for the directory itself or its parent
        let dots := match c.parts with
          | .char '.' :: _ => [".", ".."].filter fun n => c.accepts n
          | _ => []
        dots.reverse.flatMap (fun n =>
          let next := p / n
          if cs.isEmpty then [next] else findFrom d fuel next cs) ++
        (childrenOf d p).flatMap fun child => findAt d fuel child (c :: cs)
      else []

/-- The places that the components lead to when the first of them is to be met by `p` itself. -/
def findAt (d : Disk) : Nat → Path → List Pattern → List Path
  | 0, _, _ => []
  | _ + 1, _, [] => []
  | fuel + 1, p, c :: cs =>
    let here (c : Pattern) (cs : List Pattern) : List Path :=
      if p.fileName?.any c.accepts then
        if cs.isEmpty then [p] else findFrom d fuel p cs
      else []
    if c.isRecursive then
      -- several in a row are as good as one
      let cs := cs.dropWhile Pattern.isRecursive
      let inside := if d.isDirectory p then findFrom d fuel p (c :: cs) else []
      match cs with
      | [] => if d.isDirectory p then p :: inside else []
      | next :: rest => here next rest ++ inside
    else here c cs

end

/-- The paths that a pattern stands for; none if it is no pattern. -/
def glob? (d : Disk) (pattern : String) : Option (List Path) := do
  let _ ← Pattern.parse? pattern
  let absolute := pattern.toList.head? = some '/'
  let body := if absolute then pattern.toList.drop 1 else pattern.toList
  let pieces := splitOn (· = '/') body
  let directory := body.getLast? = some '/'
  let components ← (if directory || body.isEmpty then pieces.dropLast else pieces).mapM fun piece =>
    Pattern.parse? (String.ofList piece)
  let fuel := 2 * (d.entries.length + components.length) + 2
  let found := findFrom d fuel ⟨if absolute then "/" else "."⟩ components
  return if directory then found.filter d.isDirectory else found

end DeckPress.Disk
