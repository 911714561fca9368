import DeckPress.Markdown.Link
import DeckPress.Markdown.Tag

/-!
# Inline content

What stands inside a paragraph, a heading or a table cell. Reading goes from left to right and collects
pieces: finished nodes, and runs of signs that may turn out to be emphasis. A bracket opens a frame of
its own; when it closes as a link, the frame becomes the text of the link, and otherwise its pieces join
those before it. Runs are paired once a frame or the whole text is complete.
-/

namespace DeckPress.Markdown

open Text

/-- Inline content. -/
inductive Inline where
  | text (s : List Char)
  | softBreak
  | lineBreak
  | code (s : List Char)
  | html (s : List Char)
  | emphasis (content : List Inline)
  | strong (content : List Inline)
  | strikethrough (content : List Inline)
  | link (target : Target) (content : List Inline)
  | image (target : Target) (content : List Inline)
  deriving Repr, Inhabited

/-- A run of one sign. -/
structure Run where
  sign : Char
  /-- How many signs there were at first. -/
  length : Nat
  /-- How many are left. -/
  count : Nat
  canOpen : Bool
  canClose : Bool
  deriving Repr

/-- A piece of inline content that is being read. -/
inductive Piece where
  | node (i : Inline)
  | run (r : Run)
  deriving Repr

/-- A run that is no emphasis is text. -/
def Run.toInline (r : Run) : Inline := .text (List.replicate r.count r.sign)

def Piece.toInline : Piece → Inline
  | .node i => i
  | .run r => r.toInline

/-! ## Pairing runs -/

/-- Whether two runs must not be paired: of runs that can both open and close, the lengths must not add up
to a multiple of three, unless both are multiples of three. -/
def oddMatch (opener closer : Run) : Bool :=
  (closer.canOpen || opener.canClose) && (opener.length + closer.length) % 3 = 0 &&
    !(opener.length % 3 = 0 && closer.length % 3 = 0)

def Run.opens (opener closer : Run) : Bool :=
  opener.canOpen && opener.sign = closer.sign && !oddMatch opener closer

/-- The nearest run that a closing run can be paired with: the pieces between, in order, the run, and the
pieces before it, last one first. -/
def findOpener? (closer : Run) (between : List Inline) : List Piece →
    Option (List Inline × Run × List Piece)
  | [] => none
  | .run r :: before =>
    if r.opens closer then some (between, r, before)
    else findOpener? closer (r.toInline :: between) before
  | .node i :: before => findOpener? closer (i :: between) before

/-- The content between a pair of runs of which `used` signs each are used up. -/
def pairContent (sign : Char) (used : Nat) (content : List Inline) : Inline :=
  if sign = '~' then .strikethrough content
  else if used = 1 then .emphasis content
  else .strong content

/-- What becomes of a closing run: the pieces so far, last one first, and what is left of it; none if
pairing ends altogether, which a strikethrough of unequal ends causes. -/
def closeRun : Nat → List Piece → Run → Option (List Piece)
  | 0, before, closer => some (.run closer :: before)
  | fuel + 1, before, closer =>
    match findOpener? closer [] before with
    | none => some ((if closer.canOpen then .run closer else .node closer.toInline) :: before)
    | some (content, opener, rest) =>
      let used := if 2 ≤ closer.count && 2 ≤ opener.count then 2 else 1
      let openerLeft := opener.count - used
      let closerLeft := closer.count - used
      if closer.sign = '~' && (openerLeft ≠ closerLeft || 0 < openerLeft) then none
      else
        let rest := if openerLeft = 0 then rest else .run { opener with count := openerLeft } :: rest
        let before := .node (pairContent closer.sign used content) :: rest
        if closerLeft = 0 then some before
        else closeRun fuel before { closer with count := closerLeft }

/-- Pairs runs from left to right. The pieces passed so far come last one first. -/
def pairRuns (before : List Piece) : List Piece → List Piece
  | [] => before.reverse
  | .node i :: rest => pairRuns (.node i :: before) rest
  | .run r :: rest =>
    if r.canClose then
      match closeRun r.count before r with
      | some before => pairRuns before rest
      | none => before.reverse ++ .run r :: rest
    else pairRuns (.run r :: before) rest

/-- The content that complete pieces make. -/
def finishPieces (pieces : List Piece) : List Inline := (pairRuns [] pieces).map Piece.toInline

/-! ## Reading -/

/-- An open bracket and the pieces behind it, last one first. -/
structure Frame where
  image : Bool
  /-- The text behind the bracket. -/
  start : List Char
  /-- Whether another bracket was opened inside. -/
  nested : Bool := false
  pieces : List Piece := []

/-- What is known of the runs of backticks in a text. -/
structure Ticks where
  /-- Whether a run has been looked for in vain up to the end of the text. -/
  complete : Bool := false
  /-- For the lengths of the runs met, where the latest of them starts. -/
  latest : List (Nat × Nat) := []
  deriving Repr

/-- Notes a run of so many backticks at a place. -/
def Ticks.meet (t : Ticks) (length place : Nat) : Ticks :=
  { t with latest := (length, place) :: t.latest.filter (·.1 ≠ length) }

/-- Whether a run of so many backticks may follow a place. -/
def Ticks.mayFollow (t : Ticks) (length place : Nat) : Bool :=
  !t.complete || (t.latest.lookup length).any (place < ·)

/-- The state of reading. `before` is the text already read, last character first. -/
structure Reading where
  before : List Char
  rest : List Char
  /-- How many characters have been read. -/
  place : Nat := 0
  /-- The pieces outside brackets, last one first. -/
  pieces : List Piece := []
  /-- The open brackets, innermost first. -/
  frames : List Frame := []
  /-- Set behind a link until the next bracket: what encloses a link is no link. -/
  noLinks : Bool := false
  /-- The bytes that references may still bring in. -/
  allowance : Nat
  /-- The HTML that has no end. -/
  unclosed : Tag.Unclosed := {}
  ticks : Ticks := {}

namespace Reading

/-- Moves on by so many characters. -/
def move (r : Reading) (n : Nat) : Reading :=
  { r with
    before := (r.rest.take n).reverse ++ r.before, rest := r.rest.drop n, place := r.place + n }

/-- Moves on to a later place of the text. -/
def moveTo (r : Reading) (rest : List Char) : Reading := r.move (r.rest.length - rest.length)

/-- Adds a piece. -/
def push (r : Reading) (p : Piece) : Reading :=
  match r.frames with
  | [] => { r with pieces := p :: r.pieces }
  | f :: fs => { r with frames := { f with pieces := p :: f.pieces } :: fs }

def add (r : Reading) (i : Inline) : Reading := r.push (.node i)

/-- Adds a node and moves on by so many characters. -/
def emit (r : Reading) (i : Inline) (n : Nat) : Reading := (r.move n).add i

/-- Adds a node and moves on to a later place. -/
def emitTo (r : Reading) (i : Inline) (rest : List Char) : Reading := (r.moveTo rest).add i

/-- The piece added last. -/
def last? (r : Reading) : Option Piece :=
  match r.frames with
  | [] => r.pieces.head?
  | f :: _ => f.pieces.head?

/-- Opens a bracket. -/
def openBracket (r : Reading) (image : Bool) : Reading :=
  let r := r.move (if image then 2 else 1)
  let frames := match r.frames with
    | [] => []
    | f :: fs => { f with nested := true } :: fs
  { r with
    frames := { image, start := r.rest } :: frames
    noLinks := if image then r.noLinks else false }

/-- The text of a bracket that is no link. -/
def bracketText (f : Frame) : Inline := .text (if f.image then ['!', '['] else ['['])

/-- Gives up the innermost bracket: its pieces join those before it. -/
def dropFrame (r : Reading) (f : Frame) (fs : List Frame) : Reading :=
  let pieces := f.pieces ++ [.node (bracketText f)]
  match fs with
  | [] => { r with frames := [], pieces := pieces ++ r.pieces }
  | g :: gs => { r with frames := { g with pieces := pieces ++ g.pieces } :: gs }

/-- Makes a link or an image of the innermost bracket. -/
def closeFrame (r : Reading) (f : Frame) (fs : List Frame) (target : Target) (rest : List Char) :
    Reading :=
  let content := finishPieces f.pieces.reverse
  let node := if f.image then Inline.image target content else .link target content
  let r := ({ r with frames := fs }.moveTo rest).add node
  { r with noLinks := r.noLinks || !f.image }

end Reading

/-- The target in parentheses behind a bracket, and what follows it. -/
def readInlineTarget? : List Char → Option (Target × List Char)
  | '(' :: rest => do
    let (url, rest) ← readDestination? (skipWideSpace rest)
    let atTitle := skipWideSpace rest
    let (title, rest) := if atTitle.length = rest.length then ([], atTitle)
      else (readTitle? atTitle).getD ([], atTitle)
    match skipWideSpace rest with
    | ')' :: rest => return (⟨cleanUrl url, cleanTitle title⟩, rest)
    | _ => none
  | _ => none

/-- The target that a closing bracket refers to, what follows the reference, and what is left then of the
bytes that references may bring in: the target itself, a label, or the text in the brackets as a label.
`rest` follows the bracket. -/
def readTarget? (ds : Definitions) (allowance : Nat) (f : Frame) (rest : List Char) :
    Option (Target × List Char × Nat) :=
  match readInlineTarget? rest with
  | some (target, after) => some (target, after, allowance)
  | none =>
    let own := if f.nested then none else some (f.start.take (f.start.length - rest.length - 1))
    let (label?, after) := match readLabel? rest with
      | some (label, after) => (if label.isEmpty then own else some label, after)
      | none => (own, rest)
    label?.bind fun label => (ds.refer? allowance label).map fun (target, left) => (target, after, left)

/-- Reads a closing bracket; `rest` follows it. -/
def readCloseBracket (ds : Definitions) (r : Reading) (rest : List Char) : Reading :=
  match r.frames with
  | [] => r.emit (.text [']']) 1
  | f :: fs =>
    let giveUp := (r.dropFrame f fs).emit (.text [']']) 1
    if !f.image && r.noLinks then giveUp
    else
      match readTarget? ds r.allowance f rest with
      | some (target, after, allowance) => { r with allowance }.closeFrame f fs target after
      | none => giveUp

/-- The signs that end plain text. -/
def isSpecial (c : Char) : Bool :=
  ['\n', '\r', '_', '*', '"', '`', '\'', '\\', '&', '<', '[', ']', '!', '~'].contains c

/-- Looks for a run of exactly `n` backticks from `place` on. Gives how many characters come before it,
counted from `start`, and what is known of the runs then. -/
def seekTicks (n start : Nat) : Nat → Nat → Ticks → List Char → Option Nat × Ticks
  | 0, _, t, _ => (none, t)
  | fuel + 1, place, t, s =>
    let rest := s.dropWhile (· ≠ '`')
    let place := place + (s.takeWhile (· ≠ '`')).length
    let length := (rest.takeWhile (· = '`')).length
    if length = 0 then (none, { t with complete := true })
    else
      let t := t.meet length place
      if length = n then (some (place - start), t)
      else seekTicks n start fuel (place + length) t (rest.drop length)

/-- The text of a code span: line ends are spaces, and one space at each end is dropped unless there is
nothing else. -/
def codeText (s : List Char) : List Char :=
  let s := s.map fun c => if c = '\n' then ' ' else c
  if s.any (· ≠ ' ') && s.head? = some ' ' && s.getLast? = some ' ' then (s.drop 1).dropLast else s

/-- Reads a run of backticks; the longest run that may start code has 80. -/
def readTicks (r : Reading) : Reading :=
  let n := (r.rest.takeWhile (· = '`')).length
  let after := r.rest.drop n
  let place := r.place + n
  if 80 < n || !r.ticks.mayFollow n place then r.emit (.text (List.replicate n '`')) n
  else
    let (found, ticks) := seekTicks n place (after.length + 1) place r.ticks after
    let r := { r with ticks }
    match found with
    | some k => r.emit (.code (codeText (after.take k))) (n + k + n)
    | none => r.emit (.text (List.replicate n '`')) n

/-- The neighbour of a run: tildes are passed over, and the end of the text counts as a line end. -/
def neighbour (s : List Char) : Char := (s.dropWhile (· = '~')).headD '\n'

/-- Reads a run of a sign that may be emphasis. -/
def readRun (r : Reading) (sign : Char) : Reading :=
  let run := r.rest.takeWhile (· = sign)
  let after := r.rest.dropWhile (· = sign)
  let left := neighbour r.before
  let right := neighbour after
  let opens := !isWhite right && !(isPunctuation right && !isWhite left && !isPunctuation left)
  let closes := !isWhite left && !(isPunctuation left && !isWhite right && !isPunctuation right)
  let canOpen := if sign = '_' then opens && (!closes || isPunctuation left) else opens
  let canClose := if sign = '_' then closes && (!opens || isPunctuation right) else closes
  let n := run.length
  (r.move n).push (.run ⟨sign, n, n, canOpen, canClose⟩)

def isSchemeChar (c : Char) : Bool := isAsciiAlnum c || c = '+' || c = '.' || c = '-'

/-- An address with a scheme in angle brackets, behind the first, and what follows the last. -/
def readUriLink? (s : List Char) : Option (List Char × List Char) :=
  let scheme := s.takeWhile isSchemeChar
  let rest := s.dropWhile isSchemeChar
  let address := rest.takeWhile fun c => 0x20 < c.toNat && c ≠ '<' && c ≠ '>'
  if scheme.head?.any isAsciiAlpha && 2 ≤ scheme.length && scheme.length ≤ 32 &&
      rest.head? = some ':' then
    match rest.drop address.length with
    | '>' :: after => some (scheme ++ address, after)
    | _ => none
  else none

def isMailChar (c : Char) : Bool :=
  isAsciiAlnum c || ".!#$%&'*+/=?^_`{|}~-".toList.contains c

/-- A label of a host name: at most 63 letters, digits and hyphens, no hyphen at either end. -/
def isHostLabel (s : List Char) : Bool :=
  s.length ≤ 63 && s.head?.any isAsciiAlnum && s.getLast?.any isAsciiAlnum &&
    s.all fun c => isAsciiAlnum c || c = '-'

/-- A mail address in angle brackets, behind the first, and what follows the last. -/
def readMailLink? (s : List Char) : Option (List Char × List Char) :=
  let user := s.takeWhile isMailChar
  match s.dropWhile isMailChar with
  | '@' :: rest =>
    let host := rest.takeWhile (· ≠ '>')
    if !user.isEmpty && (splitOn (· = '.') host).all isHostLabel then
      match rest.drop host.length with
      | '>' :: after => some (user ++ '@' :: host, after)
      | _ => none
    else none
  | _ => none

/-- Reads an angle bracket: an address, a piece of HTML, or text. -/
def readAngle (r : Reading) : Reading :=
  let s := r.rest.drop 1
  match readUriLink? s with
  | some (address, after) =>
    let address := replaceEntities address
    r.emitTo (.link ⟨address, []⟩ [.text address]) after
  | none =>
    match readMailLink? s with
    | some (address, after) =>
      let address := replaceEntities address
      r.emitTo (.link ⟨"mailto:".toList ++ address, []⟩ [.text address]) after
    | none =>
      let (found, unclosed) := Tag.skipInline? r.unclosed s
      let r := { r with unclosed }
      match found with
      | some after => r.emitTo (.html (r.rest.take (r.rest.length - after.length))) after
      | none => r.emit (.text ['<']) 1

/-- Reads the end of a line. Two spaces before it make a line break. -/
def readLineEnd (r : Reading) : Reading :=
  let hard := match r.before with
    | ' ' :: ' ' :: _ => true
    | _ => false
  let blanks := (r.rest.drop 1).takeWhile isBlankChar
  r.emit (if hard then .lineBreak else .softBreak) (1 + blanks.length)

/-- Reads a backslash: an escaped sign, a line break, or text. -/
def readBackslash (r : Reading) : Reading :=
  match r.rest.drop 1 with
  | c :: _ =>
    if isAsciiPunctuation c then r.emit (.text [c]) 2
    else if c = '\n' then r.emit .lineBreak 2
    else r.emit (.text ['\\']) 1
  | [] => r.emit (.text ['\\']) 1

/-- Reads plain text up to the next special sign. Blanks before a line end are dropped, and so are
blanks behind a line break. -/
def readPlain (r : Reading) (c : Char) (s : List Char) : Reading :=
  let text := c :: s.takeWhile (!isSpecial ·)
  let rest := s.dropWhile (!isSpecial ·)
  let shown := if rest.head? = some '\n' then trimEndSpace text else text
  let shown := match r.last? with
    | some (.node .lineBreak) => trimStartSpace shown
    | _ => shown
  r.emit (.text shown) text.length

/-- Reads one piece of content; the text left is not empty. -/
def readPiece (ds : Definitions) (r : Reading) (c : Char) (rest : List Char) : Reading :=
  if c = '\n' then readLineEnd r
  else if c = '`' then readTicks r
  else if c = '\\' then readBackslash r
  else if c = '&' then
    match entity? rest with
    | some (image, after) => r.emitTo (.text image) after
    | none => r.emit (.text ['&']) 1
  else if c = '<' then readAngle r
  else if c = '*' || c = '_' || c = '~' then readRun r c
  else if c = '[' then r.openBracket false
  else if c = ']' then readCloseBracket ds r rest
  else if c = '!' then
    match rest with
    | '[' :: after =>
      if after.head? = some '^' then r.emit (.text ['!']) 1 else r.openBracket true
    | _ => r.emit (.text ['!']) 1
  else if c = '"' || c = '\'' then r.emit (.text [c]) 1
  else readPlain r c rest

/-- Reads all content that is left. -/
def readAll (ds : Definitions) : Nat → Reading → Reading
  | 0, r => r
  | fuel + 1, r =>
    match r.rest with
    | [] => r
    | c :: rest => readAll ds fuel (readPiece ds r c rest)

/-- All pieces, last one first. Brackets that are still open are given up. -/
def Reading.allPieces (r : Reading) : List Piece :=
  r.frames.foldr (fun f pieces => f.pieces ++ .node (bracketText f) :: pieces) r.pieces

/-- The inline content of a text, and what is left then of the bytes that references may bring in. -/
def readInlines (ds : Definitions) (allowance : Nat) (s : List Char) : List Inline × Nat :=
  let s := trimEndSpace s
  let r := readAll ds s.length { before := [], rest := s, allowance }
  (finishPieces r.allPieces.reverse, r.allowance)

end DeckPress.Markdown
