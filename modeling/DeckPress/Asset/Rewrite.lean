import DeckPress.Asset.Name
import DeckPress.Disk.Basic
import DeckPress.Error
import DeckPress.Regex.Match
import DeckPress.Regex.Reading

/-!
# Local copies of remote assets

Addresses of remote assets in code are replaced by the paths of local copies. A cache provides the copies;
an address whose copy it cannot provide stays as it is and is reported, once for each file of code. Each
pattern is applied to what the one before it left.
-/

namespace DeckPress.Asset

open Text

/-- Provides a local copy of the asset at an address. -/
abbrev Cache := Disk → String → Except Error Path

/-- The cache of a directory: it has what is stored there, and asks no server. -/
def Cache.stored (dir : Path) : Cache := fun d url =>
  let target := dir / cachedName url
  if d.isFile target then .ok target else .error (.validation (.offline url))

/-- How addresses are found and what their copies are called. -/
structure Rewriter where
  enabled : Bool
  patterns : List Regex
  deckRoot : Path

/-- Reads the patterns of a project. -/
def readPatterns (texts : List String) : Except Error (List Regex) :=
  texts.mapM fun text =>
    match Regex.ofText? text with
    | some r => .ok r
    | none => .error (.config (.pattern text))

/-- The path under which the application finds a local file. -/
def publicPath (deckRoot file : Path) : String :=
  match file.stripPrefix? deckRoot with
  | some rest => "/" ++ rest.slashed
  | none => "/@fs" ++ file.slashed

/-- What is known of the addresses met so far: for each the path of its copy, if there is one. -/
structure Known where
  copies : List (String × Option String) := []
  degradations : List Degradation := []

/-- Takes over what a cache answers for an address. -/
def Known.note (deckRoot : Path) (k : Known) (url : String) : Except Error Path → Known
  | .ok file => { k with copies := (url, some (publicPath deckRoot file)) :: k.copies }
  | .error e =>
    { copies := (url, none) :: k.copies
      degradations := k.degradations ++ [.assetFetchFailed url e.message] }

/-- What stands in place of an address. -/
def Known.image (k : Known) (url : List Char) : List Char :=
  match k.copies.lookup (String.ofList url) with
  | some (some copy) => copy.toList
  | _ => url

section Rewriting

/-! A cache may have a state, which its answers depend on and which a question can change. -/

variable {σ : Type} (materialize : String → StateM σ (Except Error Path))

/-- Asks for the copy of an address that has not been met before. -/
def Known.consult (deckRoot : Path) (k : Known) (url : String) : StateM σ Known :=
  if (k.copies.lookup url).isSome then return k
  else return k.note deckRoot url (← materialize url)

/-- Asks for the copies of several addresses, one after the other. -/
def Known.consultAll (deckRoot : Path) (k : Known) (urls : List (List Char)) : StateM σ Known :=
  urls.foldlM (fun k url => k.consult materialize deckRoot (String.ofList url)) k

/-- Applies one pattern. -/
def runPattern (deckRoot : Path) (state : List Char × Known) (r : Regex) : StateM σ (List Char × Known) := do
  let (code, known) := state
  let pieces := r.pieces code
  let known ← known.consultAll materialize deckRoot (pieces.filterMap Piece.found?)
  return (pieces.flatMap (Piece.replaced known.image), known)

/-- Puts local copies in place of all addresses in code. -/
def Rewriter.rewriteWith (w : Rewriter) (code : String) : StateM σ (String × List Degradation) := do
  if !w.enabled then return (code, [])
  let (code, known) ← w.patterns.foldlM (runPattern materialize w.deckRoot) (code.toList, {})
  return (String.ofList code, known.degradations)

end Rewriting

/-- Puts local copies in place of all addresses in code, where a cache answers by the address alone. -/
def Rewriter.rewrite (w : Rewriter) (materialize : String → Except Error Path) (code : String) :
    String × List Degradation :=
  let cache (url : String) : StateM Unit (Except Error Path) := return materialize url
  ((w.rewriteWith cache code).run ()).1

end DeckPress.Asset
