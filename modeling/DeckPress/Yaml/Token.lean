import DeckPress.Text.Basic

/-!
# YAML tokens

The first half of reading YAML 1.1: characters become tokens. Most tokens are recognised by their
first characters. Two things are not:

* *Indentation.* A block collection has no sign of its own; it starts where the column grows beyond
  the current indentation and ends where the column falls below it. The scanner keeps a stack of
  indentations and writes a start token or end tokens when the column moves.
* *Keys.* A scalar turns out to be a key only when the colon behind it is met. Where a key may stand
  the scanner notes a candidate, with the number of the token that starts it; at the colon the `key`
  token (and the start of the mapping, if there is none yet) is inserted at that number. A candidate
  must lie on one line and within 1024 bytes of its colon.

Every function returns `none` where the text is not YAML.
-/

namespace DeckPress.Yaml

open Text

/-- How a scalar is written. -/
inductive Style where
  | plain | singleQuoted | doubleQuoted | literal | folded
  deriving DecidableEq, Repr, Inhabited

/-- The text of a tag. Its percent escapes give bytes, which need not be text. -/
structure Tag where
  text : String
  /-- Whether all its bytes are text; where they are not, `text` has replacement characters. -/
  isText : Bool := true
  deriving DecidableEq, Repr, Inhabited

def Tag.append (a b : Tag) : Tag := ⟨a.text ++ b.text, a.isText && b.isText⟩

/-- The tokens of YAML. -/
inductive Token where
  | versionDirective (major minor : Nat)
  | tagDirective (handle : String) (start : Tag)
  | documentStart
  | documentEnd
  | streamEnd
  | blockSequenceStart
  | blockMappingStart
  | blockEnd
  | flowSequenceStart
  | flowSequenceEnd
  | flowMappingStart
  | flowMappingEnd
  | blockEntry
  | flowEntry
  | key
  | value
  | alias (name : String)
  | anchor (name : String)
  | tag (handle : String) (suffix : Tag)
  | scalar (text : String) (style : Style)
  deriving DecidableEq, Repr, Inhabited

/-- A line break: line feed, carriage return, next line, and the two Unicode separators. -/
def isBreak (c : Char) : Bool :=
  c = '\n' || c = '\r' || c.toNat = 0x85 || c.toNat = 0x2028 || c.toNat = 0x2029

def isSpaceOrTab (c : Char) : Bool := c = ' ' || c = '\t'

/-- Letters, digits, hyphen and underscore, of which names are made. -/
def isNameChar (c : Char) : Bool := isAsciiAlnum c || c = '_' || c = '-'

/-- Characters that YAML text may hold. -/
def isAllowed (c : Char) : Bool :=
  let n := c.toNat
  n = 9 || n = 10 || n = 13 || (0x20 ≤ n && n ≤ 0x7e) || n = 0x85 ||
    (0xa0 ≤ n && n ≤ 0xd7ff) || (0xe000 ≤ n && n ≤ 0xfffd) || 0x10000 ≤ n

/-- A place in the text, and what is left from there. -/
structure Cursor where
  rest : List Char
  /-- The bytes passed so far. -/
  index : Nat
  line : Nat
  column : Nat
  deriving Repr, Inhabited

namespace Cursor

def peek (c : Cursor) : Option Char := c.rest.head?

def peekAt (c : Cursor) (n : Nat) : Option Char := c.rest[n]?

/-- Whether the character `n` places ahead is a blank, a break, or the end of the text. -/
def blankAt (c : Cursor) (n : Nat) : Bool :=
  (c.peekAt n).all fun x => isSpaceOrTab x || isBreak x

def atBreak (c : Cursor) : Bool := c.peek.any isBreak

/-- Passes `n` characters of the current line. -/
def skip (c : Cursor) (n : Nat) : Cursor :=
  { c with
    rest := c.rest.drop n, index := c.index + utf8Length (c.rest.take n), column := c.column + n }

/-- Passes a line break. -/
def skipLine (c : Cursor) : Cursor :=
  match c.rest with
  | '\r' :: '\n' :: r => { rest := r, index := c.index + 2, line := c.line + 1, column := 0 }
  | x :: r => { rest := r, index := c.index + x.utf8Size, line := c.line + 1, column := 0 }
  | [] => c

/-- The text a line break stands for: the Unicode separators stand for themselves, all others for a
line feed. -/
def breakText (c : Cursor) : List Char :=
  match c.peek with
  | some x => if x.toNat = 0x2028 || x.toNat = 0x2029 then [x] else ['\n']
  | none => []

/-- Passes the characters of the current line that satisfy `p`. -/
def skipWhile (c : Cursor) (p : Char → Bool) : Cursor := c.skip (c.rest.takeWhile p).length

/-- Whether a document marker stands at the start of the line. -/
def atDocumentMarker (c : Cursor) : Bool :=
  c.column = 0 && (startsWith "---".toList c.rest || startsWith "...".toList c.rest) && c.blankAt 3

end Cursor

/-- A place where a key may start. -/
structure KeyCandidate where
  /-- The number of the token that starts the key. -/
  token : Nat
  start : Cursor
  /-- A key must stand here: the column is that of the keys of the current block mapping. -/
  required : Bool
  deriving Inhabited

/-- The state of the scanner. -/
structure Scanner where
  cursor : Cursor
  tokens : Array Token := #[]
  /-- The candidates of the open flow collections, innermost first, and that of the block level. -/
  candidates : List (Option KeyCandidate) := [none]
  /-- A key may start at the next token. -/
  keyAllowed : Bool := true
  /-- The column of the current block collection, `-1` outside all. -/
  indent : Int := -1
  indents : List Int := []

namespace Scanner

/-- Whether a flow collection is open. -/
def inFlow (s : Scanner) : Bool :=
  match s.candidates with
  | _ :: _ :: _ => true
  | _ => false

def push (s : Scanner) (t : Token) : Scanner := { s with tokens := s.tokens.push t }

def insertAt (s : Scanner) (n : Nat) (t : Token) : Scanner :=
  { s with tokens := s.tokens.insertIdxIfInBounds n t }

def skip (s : Scanner) (n : Nat) : Scanner := { s with cursor := s.cursor.skip n }

/-- Gives up the candidate of the current level, which must not be a required one. -/
def dropCandidate? (s : Scanner) : Option Scanner :=
  match s.candidates with
  | some k :: rest => if k.required then none else some { s with candidates := none :: rest }
  | _ => some s

/-- Notes that a key may start at the next token. -/
def noteCandidate? (s : Scanner) : Option Scanner :=
  if s.keyAllowed then do
    let s ← s.dropCandidate?
    let k : KeyCandidate :=
      { token := s.tokens.size, start := s.cursor,
        required := !s.inFlow && s.indent = (s.cursor.column : Int) }
    return { s with candidates := some k :: s.candidates.tail }
  else some s

/-- The candidate of the current level, if it is still near enough; `none` outside if a required one
has been left behind. -/
def candidate? (s : Scanner) : Option (Option KeyCandidate) :=
  match s.candidates with
  | some k :: _ =>
    if k.start.line < s.cursor.line || k.start.index + 1024 < s.cursor.index then
      if k.required then none else some none
    else some (some k)
  | _ => some none

/-- Opens a block collection at `column` if that lies beyond the current indentation. Its start token
goes to the end, or to the place `token`. -/
def openBlock (s : Scanner) (column : Nat) (token : Option Nat) (t : Token) : Scanner :=
  if s.inFlow || (column : Int) ≤ s.indent then s
  else
    let s := { s with indents := s.indent :: s.indents, indent := column }
    match token with
    | none => s.push t
    | some n => s.insertAt n t

/-- Closes the block collections that lie beyond `column`; `indents` are those below the current one. -/
def closeBlocksTo (s : Scanner) (column : Int) : List Int → Scanner
  | [] => s
  | i :: is =>
    if column < s.indent then closeBlocksTo { s.push .blockEnd with indent := i, indents := is } column is
    else s

def closeBlocks (s : Scanner) (column : Int) : Scanner :=
  if s.inFlow then s else s.closeBlocksTo column s.indents

end Scanner

/-! ## Between tokens -/

/-- Passes blanks, comments, line breaks, and a mark of byte order at the start of a line. In block
context a line break makes a key possible again, and a tab must not stand where a key may start. -/
def skipToToken : Nat → Scanner → Scanner
  | 0, s => s
  | fuel + 1, s =>
    let c := if s.cursor.column = 0 && s.cursor.peek.any (·.toNat = 0xfeff) then s.cursor.skip 1
      else s.cursor
    let tabs := s.inFlow || !s.keyAllowed
    let c := c.skipWhile fun x => x = ' ' || (tabs && x = '\t')
    let c := if c.peek = some '#' then c.skipWhile fun x => !isBreak x else c
    if c.atBreak then
      skipToToken fuel
        { s with cursor := c.skipLine, keyAllowed := s.keyAllowed || !s.inFlow }
    else { s with cursor := c }

/-! ## Scalars -/

/-- White space between two parts of a flow or plain scalar: on one line it stays; over a line end it
folds to a space, or to the line breaks after the first. -/
structure Gap where
  blanks : List Char := []
  /-- The gap holds a line break, whose text is `first`. -/
  broken : Bool := false
  first : List Char := []
  others : List Char := []

namespace Gap

def text (g : Gap) : List Char :=
  if g.broken then
    if g.first = ['\n'] then (if g.others.isEmpty then [' '] else g.others) else g.first ++ g.others
  else g.blanks

end Gap

/-- Reads the blanks and breaks from the cursor on. Where `minColumn` is given, a tab left of it in a
fresh line is refused. -/
def readGap? (minColumn : Option Int) : Nat → Gap → Cursor → Option (Gap × Cursor)
  | 0, _, _ => none
  | fuel + 1, g, c =>
    match c.peek with
    | none => some (g, c)
    | some x =>
      if isSpaceOrTab x then
        if g.broken && x = '\t' && minColumn.any ((c.column : Int) < ·) then none
        else
          readGap? minColumn fuel (if g.broken then g else { g with blanks := g.blanks ++ [x] })
            (c.skip 1)
      else if isBreak x then
        let g := if g.broken then { g with others := g.others ++ c.breakText }
          else { g with blanks := [], broken := true, first := c.breakText }
        readGap? minColumn fuel g c.skipLine
      else some (g, c)

/-- A plain scalar, last character first. `out` is its text so far, in the same order, `gap` the white
space since, and `minColumn` the column that a further line of it must reach in block context. Also tells
whether a line break follows the scalar. -/
def readPlain? (flow : Bool) (minColumn : Int) : Nat → List Char → Gap → Cursor →
    Option (List Char × Bool × Cursor)
  | 0, _, _, _ => none
  | fuel + 1, out, gap, c =>
    let stop := some (out, gap.broken, c)
    match c.peek with
    | none => stop
    | some x =>
      if isSpaceOrTab x || isBreak x then do
        let (gap, c) ← readGap? (some minColumn) (fuel + 1) gap c
        if !flow && (c.column : Int) < minColumn then return (out, gap.broken, c)
        if c.atDocumentMarker || c.peek = some '#' then return (out, gap.broken, c)
        readPlain? flow minColumn fuel out gap c
      else if flow && x = ':' && (c.peekAt 1).any [',', '?', '[', ']', '{', '}'].contains then none
      else if x = ':' && c.blankAt 1 then stop
      else if flow && [',', '[', ']', '{', '}'].contains x then stop
      else readPlain? flow minColumn fuel (x :: (gap.text.reverse ++ out)) {} (c.skip 1)

/-- What a backslash and the letter `x` stand for in double quotes. -/
def escapeLetter? (x : Char) : Option Char :=
  match x with
  | '0' => some (Char.ofNat 0)
  | 'a' => some (Char.ofNat 7)
  | 'b' => some (Char.ofNat 8)
  | 't' => some '\t'
  | '\t' => some '\t'
  | 'n' => some '\n'
  | 'v' => some (Char.ofNat 11)
  | 'f' => some (Char.ofNat 12)
  | 'r' => some '\r'
  | 'e' => some (Char.ofNat 27)
  | ' ' => some ' '
  | '"' => some '"'
  | '/' => some '/'
  | '\\' => some '\\'
  | 'N' => some (Char.ofNat 0x85)
  | '_' => some (Char.ofNat 0xa0)
  | 'L' => some (Char.ofNat 0x2028)
  | 'P' => some (Char.ofNat 0x2029)
  | _ => none

/-- How many hexadecimal digits follow a backslash and the letter `x`. -/
def escapeDigits? (x : Char) : Option Nat :=
  match x with
  | 'x' => some 2
  | 'u' => some 4
  | 'U' => some 8
  | _ => none

/-- The escape at the cursor, which stands on its backslash. -/
def readEscape? (c : Cursor) : Option (Char × Cursor) := do
  let x ← c.peekAt 1
  match escapeLetter? x with
  | some y => return (y, c.skip 2)
  | none =>
    let n ← escapeDigits? x
    let ds := (c.rest.drop 2).take n
    if ds.length < n || !ds.all isHexDigit then none
    else
      let code := hexValue ds
      if (0xd800 ≤ code && code ≤ 0xdfff) || 0x10ffff < code then none
      else return (Char.ofNat code, c.skip (2 + n))

/-- The body of a quoted scalar, up to and including the closing quote. -/
def readQuoted? (single : Bool) : Nat → List Char → Cursor → Option (List Char × Cursor)
  | 0, _, _ => none
  | fuel + 1, out, c =>
    if c.atDocumentMarker then none
    else
      match c.peek with
      | none => none
      | some x =>
        if isSpaceOrTab x || isBreak x then do
          let (gap, c) ← readGap? none (fuel + 1) {} c
          readQuoted? single fuel (gap.text.reverse ++ out) c
        else if single then
          if x = '\'' then
            if c.peekAt 1 = some '\'' then readQuoted? single fuel ('\'' :: out) (c.skip 2)
            else some (out.reverse, c.skip 1)
          else readQuoted? single fuel (x :: out) (c.skip 1)
        else if x = '"' then some (out.reverse, c.skip 1)
        else if x = '\\' then
          if (c.peekAt 1).any isBreak then do
            let (gap, c) ← readGap? none (fuel + 1) { broken := true } (c.skip 1).skipLine
            readQuoted? single fuel (gap.text.reverse ++ out) c
          else do
            let (y, c) ← readEscape? c
            readQuoted? single fuel (y :: out) c
        else readQuoted? single fuel (x :: out) (c.skip 1)

/-- What happens to the line breaks at the end of a block scalar. -/
inductive Chomping where
  | clip | strip | keep
  deriving DecidableEq

/-- Indentation spaces and empty lines in front of a line of a block scalar. The indentation is the
given one, or 0 while it is still unknown; the widest column seen is `widest`. -/
def readBlockBreaks? (indent : Nat) : Nat → Nat → List Char → Cursor →
    Option (Nat × List Char × Cursor)
  | 0, _, _, _ => none
  | fuel + 1, widest, breaks, c =>
    let beforeIndent := fun (c : Cursor) => indent = 0 || c.column < indent
    let spaces := (c.rest.takeWhile (· = ' ')).length
    let c := c.skip (if indent = 0 then spaces else min spaces (indent - c.column))
    let widest := max widest c.column
    if beforeIndent c && c.peek = some '\t' then none
    else if c.atBreak then readBlockBreaks? indent fuel widest (breaks ++ c.breakText) c.skipLine
    else some (widest, breaks, c)

/-- The lines of a block scalar. `out` is its text so far, last character first, `lead` is the break after the
line before, `breaks` are the empty lines since, `wasBlank` tells whether the line before started with a
blank. -/
def readBlockLines? (folded : Bool) (indent : Nat) : Nat → List Char → List Char → List Char → Bool →
    Cursor → Option (List Char × List Char × List Char × Cursor)
  | 0, _, _, _, _, _ => none
  | fuel + 1, out, lead, breaks, wasBlank, c =>
    if c.column = indent && !c.rest.isEmpty then do
      let isBlank := c.peek.any isSpaceOrTab
      let join :=
        if folded && lead.head? = some '\n' && !wasBlank && !isBlank then
          (if breaks.isEmpty then [' '] else breaks)
        else lead ++ breaks
      let line := c.rest.takeWhile fun x => !isBreak x
      let c := c.skip line.length
      let lead := c.breakText
      let c := c.skipLine
      let (_, breaks, c) ← readBlockBreaks? indent (fuel + 1) 0 [] c
      readBlockLines? folded indent fuel ((join ++ line).reverse ++ out) lead breaks isBlank c
    else some (out.reverse, lead, breaks, c)

/-- Chomping and indentation indicators, in either order. -/
def readBlockHeader? (c : Cursor) : Option (Chomping × Nat × Cursor) :=
  let chomp (c : Cursor) : Option (Chomping × Cursor) :=
    match c.peek with
    | some '+' => some (.keep, c.skip 1)
    | some '-' => some (.strip, c.skip 1)
    | _ => none
  let digit (c : Cursor) : Option (Option Nat × Cursor) :=
    match c.peek with
    | some x =>
      if isAsciiDigit x then (if x = '0' then some (none, c) else some (some (x.toNat - '0'.toNat), c.skip 1))
      else none
    | none => none
  match chomp c with
  | some (k, c) =>
    match digit c with
    | some (none, _) => none
    | some (some n, c) => some (k, n, c)
    | none => some (k, 0, c)
  | none =>
    match digit c with
    | some (none, _) => none
    | some (some n, c) =>
      match chomp c with
      | some (k, c) => some (k, n, c)
      | none => some (.clip, n, c)
    | none => some (.clip, 0, c)

/-- A block scalar, from behind its indicator on. -/
def readBlock? (folded : Bool) (parentIndent : Int) (c : Cursor) : Option (List Char × Cursor) := do
  let (chomping, increment, c) ← readBlockHeader? c
  let c := c.skipWhile isSpaceOrTab
  let c := if c.peek = some '#' then c.skipWhile fun x => !isBreak x else c
  if !c.rest.isEmpty && !c.atBreak then none
  else
    let c := if c.atBreak then c.skipLine else c
    let given : Nat :=
      if increment = 0 then 0 else if 0 ≤ parentIndent then parentIndent.toNat + increment else increment
    let fuel := c.rest.length + 1
    let (widest, breaks, c) ← readBlockBreaks? given fuel 0 [] c
    let indent := if given = 0 then max widest (max (parentIndent + 1) 1).toNat else given
    let (out, lead, breaks, c) ← readBlockLines? folded indent fuel [] [] breaks false c
    let out := if chomping = .strip then out else out ++ lead
    return (if chomping = .keep then out ++ breaks else out, c)

/-! ## Anchors, tags and directives -/

/-- The name of an anchor or alias, from behind its indicator on. -/
def readName? (c : Cursor) : Option (String × Cursor) :=
  let name := c.rest.takeWhile isNameChar
  let c := c.skip name.length
  let ended := c.blankAt 0 || c.peek.any ['?', ':', ',', ']', '}', '%', '@', '`'].contains
  if name.isEmpty || !ended then none else some (String.ofList name, c)

/-- Characters of a tag, besides percent escapes. A verbatim tag may also hold commas and brackets. -/
def isTagChar (verbatim : Bool) (c : Char) : Bool :=
  isNameChar c || [';', '/', '?', ':', '@', '&', '=', '+', '$', '.', '!', '~', '*', '\'', '(', ')'].contains c ||
    (verbatim && [',', '[', ']'].contains c)

/-- A byte written as a percent sign and two hexadecimal digits. -/
def readPercent? (c : Cursor) : Option (UInt8 × Cursor) :=
  match c.rest with
  | '%' :: a :: b :: _ =>
    if isHexDigit a && isHexDigit b then some ((hexValue [a, b]).toUInt8, c.skip 3) else none
  | _ => none

/-- How many bytes a character has in UTF-8 whose first byte is given. -/
def byteCount? (first : UInt8) : Option Nat :=
  if first < 0x80 then some 1
  else if 0xc0 ≤ first && first < 0xe0 then some 2
  else if 0xe0 ≤ first && first < 0xf0 then some 3
  else if 0xf0 ≤ first && first < 0xf8 then some 4
  else none

/-- The bytes that go on with a character, each as a percent escape. -/
def readFurtherBytes? : Nat → Cursor → Option (List UInt8 × Cursor)
  | 0, c => some ([], c)
  | n + 1, c => do
    let (b, c) ← readPercent? c
    if 0x80 ≤ b && b < 0xc0 then
      let (bs, c) ← readFurtherBytes? n c
      return (b :: bs, c)
    else none

/-- The escapes of one character. They must have the shape of a character in UTF-8, but need not be
one. -/
def readEscapedChar? (c : Cursor) : Option (Tag × Cursor) := do
  let (first, c) ← readPercent? c
  let (others, c) ← readFurtherBytes? ((← byteCount? first) - 1) c
  let tag := match String.fromUTF8? ⟨(first :: others).toArray⟩ with
    | some text => ⟨text, true⟩
    | none => ⟨"\ufffd", false⟩
  return (tag, c)

/-- The text of a tag. -/
def readTagText? (verbatim : Bool) : Nat → Tag → Cursor → Option (Tag × Cursor)
  | 0, _, _ => none
  | fuel + 1, out, c =>
    match c.peek with
    | some '%' => do
      let (escaped, c) ← readEscapedChar? c
      readTagText? verbatim fuel (out.append escaped) c
    | some x =>
      if isTagChar verbatim x then
        readTagText? verbatim fuel { out with text := out.text.push x } (c.skip 1)
      else some (out, c)
    | none => some (out, c)

/-- An exclamation mark, letters, and perhaps another exclamation mark. -/
def readTagHandle (c : Cursor) : List Char × Cursor :=
  let c := c.skip 1
  let name := c.rest.takeWhile isNameChar
  let c := c.skip name.length
  if c.peek = some '!' then ('!' :: name ++ ['!'], c.skip 1) else ('!' :: name, c)

/-- A tag, from its exclamation mark on. -/
def readTag? (flow : Bool) (c : Cursor) : Option (Token × Cursor) := do
  let fuel := c.rest.length + 1
  let (handle, suffix, c) ←
    if c.peekAt 1 = some '<' then do
      let (tag, c) ← readTagText? true fuel ⟨"", true⟩ (c.skip 2)
      if tag.text.isEmpty || c.peek ≠ some '>' then none
      else some ([], tag, c.skip 1)
    else do
      let (handle, c) := readTagHandle c
      if 1 < handle.length && handle.getLast? = some '!' then
        let (tag, c) ← readTagText? false fuel ⟨"", true⟩ c
        if tag.text.isEmpty then none else some (handle, tag, c)
      else
        let (tag, c) ← readTagText? false fuel ⟨String.ofList (handle.drop 1), true⟩ c
        if tag.text.isEmpty then some ([], ⟨"!", true⟩, c) else some (['!'], tag, c)
  if c.blankAt 0 || (flow && c.peek = some ',') then
    return (.tag (String.ofList handle) suffix, c)
  else none

/-- A directive, from its percent sign on. -/
def readDirective? (c : Cursor) : Option (Token × Cursor) := do
  let c := c.skip 1
  let name := c.rest.takeWhile isNameChar
  let c := c.skip name.length
  if name.isEmpty || !c.blankAt 0 then none
  else
    let (t, c) ←
      if name = "YAML".toList then
        let c := c.skipWhile isSpaceOrTab
        let major := c.rest.takeWhile isAsciiDigit
        let c := c.skip major.length
        if major.isEmpty || 9 < major.length || c.peek ≠ some '.' then none
        else
          let c := c.skip 1
          let minor := c.rest.takeWhile isAsciiDigit
          if minor.isEmpty || 9 < minor.length then none
          else
            let number := fun ds : List Char => ds.foldl (fun n d => n * 10 + (d.toNat - '0'.toNat)) 0
            some (Token.versionDirective (number major) (number minor), c.skip minor.length)
      else if name = "TAG".toList then
        let c := c.skipWhile isSpaceOrTab
        if c.peek ≠ some '!' then none
        else
          let (handle, c) := readTagHandle c
          if handle.length ≠ 1 && handle.getLast? ≠ some '!' then none
          else if !c.peek.any isSpaceOrTab then none
          else
            let c := c.skipWhile isSpaceOrTab
            let (tag, c) ← readTagText? true (c.rest.length + 1) ⟨"", true⟩ c
            if tag.text.isEmpty || !c.blankAt 0 then none
            else some (.tagDirective (String.ofList handle) tag, c)
      else none
    let c := c.skipWhile isSpaceOrTab
    let c := if c.peek = some '#' then c.skipWhile fun x => !isBreak x else c
    if c.rest.isEmpty then return (t, c)
    else if c.atBreak then return (t, c.skipLine)
    else none

/-! ## One token -/

/-- Characters that cannot start a plain scalar. -/
def isIndicator (c : Char) : Bool :=
  ['-', '?', ':', ',', '[', ']', '{', '}', '#', '&', '*', '!', '|', '>', '\'', '"', '%', '@', '`'].contains c

namespace Scanner

/-- Ends all block collections in front of a directive or document marker. -/
def endBlocks? (s : Scanner) : Option Scanner := do
  let s ← (s.closeBlocks (-1)).dropCandidate?
  return { s with keyAllowed := false }

def openFlow? (s : Scanner) (t : Token) : Option Scanner := do
  let s ← s.noteCandidate?
  return { (s.push t).skip 1 with candidates := none :: s.candidates, keyAllowed := true }

def closeFlow? (s : Scanner) (t : Token) : Option Scanner := do
  let s ← s.dropCandidate?
  let candidates := if s.inFlow then s.candidates.tail else s.candidates
  return { (s.push t).skip 1 with candidates := candidates, keyAllowed := false }

def blockEntry? (s : Scanner) : Option Scanner := do
  if !s.inFlow && !s.keyAllowed then none
  else
    let s ← (s.openBlock s.cursor.column none .blockSequenceStart).dropCandidate?
    return { (s.push .blockEntry).skip 1 with keyAllowed := true }

def key? (s : Scanner) : Option Scanner := do
  if !s.inFlow && !s.keyAllowed then none
  else
    let s ← (s.openBlock s.cursor.column none .blockMappingStart).dropCandidate?
    return { (s.push .key).skip 1 with keyAllowed := !s.inFlow }

/-- The colon of a value. If a key precedes it, its tokens are inserted in front of it. -/
def value? (s : Scanner) : Option Scanner := do
  match ← s.candidate? with
  | some k =>
    let s := (s.insertAt k.token .key).openBlock k.start.column (some k.token) .blockMappingStart
    return { (s.push .value).skip 1 with candidates := none :: s.candidates.tail, keyAllowed := false }
  | none =>
    if !s.inFlow && !s.keyAllowed then none
    else
      let s := s.openBlock s.cursor.column none .blockMappingStart
      return { (s.push .value).skip 1 with
        candidates := none :: s.candidates.tail, keyAllowed := !s.inFlow }

/-- A token that may start a key. -/
def startsKey? (s : Scanner) (read : Cursor → Option (Token × Cursor)) : Option Scanner := do
  let s ← s.noteCandidate?
  let (t, c) ← read s.cursor
  return { s.push t with cursor := c, keyAllowed := false }

def blockScalar? (s : Scanner) (folded : Bool) : Option Scanner := do
  let s ← s.dropCandidate?
  let (text, c) ← readBlock? folded s.indent (s.cursor.skip 1)
  let t := Token.scalar (String.ofList text) (if folded then .folded else .literal)
  return { s.push t with cursor := c, keyAllowed := true }

def quoted? (fuel : Nat) (s : Scanner) (single : Bool) : Option Scanner :=
  s.startsKey? fun c => do
    let (text, c) ← readQuoted? single fuel [] (c.skip 1)
    return (.scalar (String.ofList text) (if single then .singleQuoted else .doubleQuoted), c)

def plain? (fuel : Nat) (s : Scanner) : Option Scanner := do
  let s ← s.noteCandidate?
  let (text, broken, c) ←
    readPlain? s.inFlow (s.indent + 1) fuel [] {} s.cursor
  return { s.push (.scalar (String.ofList text.reverse) .plain) with cursor := c, keyAllowed := broken }

/-- Scans one token; the state is returned with `true` at the end of the text. Within a token at most
`fuel` characters are looked at, which is more than there are. -/
def step? (fuel : Nat) (s : Scanner) : Option (Scanner × Bool) := do
  let s := skipToToken fuel s
  let s := s.closeBlocks s.cursor.column
  let more := fun (s : Scanner) => (s, false)
  match s.cursor.peek with
  | none =>
    let s ← s.endBlocks?
    return (s.push .streamEnd, true)
  | some x =>
    if x = '%' && s.cursor.column = 0 then
      let s ← s.endBlocks?
      let (t, c) ← readDirective? s.cursor
      return ({ s.push t with cursor := c }, false)
    else if s.cursor.atDocumentMarker then
      let s ← s.endBlocks?
      return more ((s.push (if x = '-' then .documentStart else .documentEnd)).skip 3)
    else if x = '[' then return more (← s.openFlow? .flowSequenceStart)
    else if x = '{' then return more (← s.openFlow? .flowMappingStart)
    else if x = ']' then return more (← s.closeFlow? .flowSequenceEnd)
    else if x = '}' then return more (← s.closeFlow? .flowMappingEnd)
    else if x = ',' then
      let s ← s.dropCandidate?
      return more { (s.push .flowEntry).skip 1 with keyAllowed := true }
    else if x = '-' && s.cursor.blankAt 1 then return more (← s.blockEntry?)
    else if x = '?' && (s.inFlow || s.cursor.blankAt 1) then return more (← s.key?)
    else if x = ':' && (s.inFlow || s.cursor.blankAt 1) then return more (← s.value?)
    else if x = '*' then
      return more (← s.startsKey? fun c => do
        let (name, c) ← readName? (c.skip 1)
        return (.alias name, c))
    else if x = '&' then
      return more (← s.startsKey? fun c => do
        let (name, c) ← readName? (c.skip 1)
        return (.anchor name, c))
    else if x = '!' then return more (← s.startsKey? (readTag? s.inFlow))
    else if x = '|' && !s.inFlow then return more (← s.blockScalar? false)
    else if x = '>' && !s.inFlow then return more (← s.blockScalar? true)
    else if x = '\'' then return more (← quoted? fuel s true)
    else if x = '"' then return more (← quoted? fuel s false)
    else if !isIndicator x && !isSpaceOrTab x || (x = '-' && !(s.cursor.peekAt 1).any isSpaceOrTab)
        || (!s.inFlow && (x = '?' || x = ':')) then
      return more (← plain? fuel s)
    else none

/-- Scans to the end of the text. Every token but the last passes a character. -/
def run? : Nat → Scanner → Option (List Token)
  | 0, _ => none
  | fuel + 1, s => do
    let (s, done) ← step? fuel s
    if done then return s.tokens.toList else run? fuel s

end Scanner

/-- The tokens of a text, the last of them `streamEnd`. -/
def Token.scan? (s : List Char) : Option (List Token) :=
  if s.all isAllowed then
    Scanner.run? (s.length + 2) { cursor := { rest := s, index := 0, line := 0, column := 0 } }
  else none

end DeckPress.Yaml
