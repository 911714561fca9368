import DeckPress.Style.Tokens

/-!
# Collecting tokens

Files are scanned for tokens independently of each other, and each scan hands in what it found when it is
committed. A new build starts with an empty collection and a new generation; a scan that began in an
older generation hands in nothing. Starting a build and emitting a stylesheet wait until no scan is open.
-/

namespace DeckPress.Style

/-- A scan of one file. -/
structure Scan where
  file : String
  /-- The generation in which the scan began. -/
  generation : Nat
  tokens : TokenSet := []
  deriving DecidableEq, Repr

/-- Adds tokens used by a text. -/
def Scan.record (t : Theme) (s : Scan) (code : String) : Scan :=
  { s with tokens := s.tokens.union (t.tokensIn code) }

/-- The tokens collected so far. -/
structure Collection where
  generation : Nat := 0
  /-- The tokens in ascending order, each with the files that use it. -/
  uses : List (String × TokenSet) := []
  /-- The number of scans that have begun and not ended. -/
  openScans : Nat := 0
  deriving DecidableEq, Repr

namespace Collection

def tokens (c : Collection) : TokenSet := c.uses.map (·.1)

/-- Notes that a file uses a token. -/
def addUse (file token : String) (uses : List (String × TokenSet)) : List (String × TokenSet) :=
  insertSorted token (TokenSet.insert file ((uses.lookup token).getD [])) uses

/-- Counts a scan that is about to begin. -/
def enter (c : Collection) : Collection := { c with openScans := c.openScans + 1 }

/-- Counts a scan that has ended. -/
def leave (c : Collection) : Collection := { c with openScans := c.openScans - 1 }

/-- A scan of a file in the present generation. -/
def newScan (c : Collection) (file : String) : Scan := ⟨file, c.generation, []⟩

/-- Begins a scan. -/
def begin (c : Collection) (file : String) : Scan × Collection := (c.newScan file, c.enter)

/-- Takes over what a scan found. -/
def add (c : Collection) (s : Scan) : Collection :=
  if s.generation = c.generation then
    { c with uses := s.tokens.foldl (fun uses t => addUse s.file t uses) c.uses }
  else c

/-- Ends a scan and takes over what it found. -/
def commit (c : Collection) (s : Scan) : Collection := (c.add s).leave

/-- Whether neither a build nor a stylesheet has to wait. -/
def isIdle (c : Collection) : Bool := c.openScans = 0

/-- Starts a new build. -/
def reset (c : Collection) : Collection := { c with generation := c.generation + 1, uses := [] }

/-- Scans a text and commits the scan. -/
def scan (t : Theme) (c : Collection) (file code : String) : Collection :=
  let (s, c) := c.begin file
  c.commit (s.record t code)

end Collection

end DeckPress.Style
