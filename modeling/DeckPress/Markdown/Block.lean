import DeckPress.Markdown.Link
import DeckPress.Markdown.Table
import DeckPress.Markdown.Tag

/-!
# Block structure

A document is read line by line. The blocks that are still open form a chain, from the document down to
the innermost one. A line first continues as many of them as it can; what is left of it may open new
blocks; the rest is text of the innermost block. A paragraph also takes lines that do not continue the
blocks around it, as long as they open nothing new. Blocks that a line does not continue are closed.

Inline content is not read here: blocks hold their text as written, and the link definitions taken off
the paragraphs are collected.
-/

namespace DeckPress.Markdown

open Text

/-- What kind of list an item belongs to. Items with different markers belong to different lists. -/
structure ListMarker where
  ordered : Bool
  /-- The bullet, or the sign behind the number. -/
  sign : Char
  /-- The number of the first item. -/
  start : Nat := 1
  deriving DecidableEq, Repr

def ListMarker.agrees (a b : ListMarker) : Bool := a.ordered = b.ordered && a.sign = b.sign

/-- The rows of a table as written. -/
structure TableText where
  alignments : List Alignment
  head : List (List Char)
  /-- The other rows. -/
  body : List (List (List Char))
  deriving Repr

/-- A closed block. `blankBehind` holds if its last line, or the line behind it, was blank. -/
inductive Block where
  | paragraph (blankBehind : Bool) (text : List Char)
  | heading (blankBehind : Bool) (level : Nat) (text : List Char)
  | rule (blankBehind : Bool)
  | code (blankBehind : Bool) (info text : List Char)
  | html (blankBehind : Bool) (text : List Char)
  | table (blankBehind : Bool) (table : TableText)
  | quote (blankBehind : Bool) (content : List Block)
  | item (blankBehind : Bool) (content : List Block)
  | list (blankBehind : Bool) (marker : ListMarker) (tight : Bool) (items : List Block)
  deriving Repr, Inhabited

namespace Block

def blankBehind : Block → Bool
  | .paragraph b _ | .heading b _ _ | .rule b | .code b _ _ | .html b _ | .table b _ | .quote b _
  | .item b _ | .list b _ _ _ => b

def setBlankBehind (b : Bool) : Block → Block
  | .paragraph _ t => .paragraph b t
  | .heading _ l t => .heading b l t
  | .rule _ => .rule b
  | .code _ i t => .code b i t
  | .html _ t => .html b t
  | .table _ t => .table b t
  | .quote _ c => .quote b c
  | .item _ c => .item b c
  | .list _ m t i => .list b m t i

/-- The blocks inside an item. -/
def itemContent : Block → List Block
  | .item _ content => content
  | _ => []

mutual

/-- Whether a block ends with a blank line. Lists and items end as their last child does. -/
def endsBlank : Block → Bool
  | .list b _ _ items => b || lastEndsBlank items
  | .item b content => b || lastEndsBlank content
  | .paragraph b _ | .heading b _ _ | .rule b | .code b _ _ | .html b _ | .table b _ | .quote b _ => b

def lastEndsBlank : List Block → Bool
  | [] => false
  | [b] => endsBlank b
  | _ :: rest => lastEndsBlank rest

end

/-- Whether a blank line separates two of the given blocks. `more` holds if something follows them. -/
def blankBetween (more : Bool) : List Block → Bool
  | [] => false
  | b :: rest => ((more || !rest.isEmpty) && b.endsBlank) || blankBetween more rest

/-- A list is tight unless a blank line separates two items, or two blocks of one item. -/
def tightItems : List Block → Bool
  | [] => true
  | i :: rest =>
    !(i.blankBehind && !rest.isEmpty) && !blankBetween (!rest.isEmpty) i.itemContent && tightItems rest

end Block

/-! ## Open blocks -/

/-- The kind of an open block. -/
inductive OpenKind where
  | document
  | quote
  /-- A list; `sealed` is its tightness, once that has been decided. -/
  | list (marker : ListMarker) (sealed : Option Bool)
  /-- An item, and the column its content starts at, counted from where its list starts. -/
  | item (indent : Nat)
  /-- A paragraph; `noTable` is set when it has been found to be no head of a table. -/
  | paragraph (noTable : Bool)
  | heading (level : Nat)
  | rule
  | fenced (sign : Char) (length offset : Nat)
  | indented
  | html (kind : Tag.BlockKind)
  | table (alignments : List Alignment) (head : List (List Char))
  deriving Repr

/-- An open block: its closed children and its lines of text, last ones first. -/
structure Open where
  kind : OpenKind
  /-- The line it started on. -/
  line : Nat
  blankBehind : Bool := false
  children : List Block := []
  lines : List (List Char) := []
  rows : List (List (List Char)) := []
  deriving Repr

namespace Open

def text (o : Open) : List Char := o.lines.reverse.flatten

def addLine (o : Open) (s : List Char) : Open := { o with lines := s :: o.lines }

def isParagraph (o : Open) : Bool :=
  match o.kind with
  | .paragraph _ => true
  | _ => false

/-- Whether the lines of the block are never markdown. -/
def isLiteral (o : Open) : Bool :=
  match o.kind with
  | .fenced .. | .indented | .html _ => true
  | _ => false

/-- Whether the block may hold another block; lists hold only items. -/
def mayHold (o : Open) (item : Bool) : Bool :=
  match o.kind with
  | .document | .quote | .item _ => !item
  | .list .. => item
  | _ => false

end Open

/-- The text of indented code without the blank lines at its end. -/
def dropBlankTail (s : List Char) : List Char :=
  let lines := splitOn (· = '\n') s
  let kept := (lines.reverse.dropWhile fun l => l.all isBlankChar).reverse
  joinLines kept ++ ['\n']

/-- The info of a fence: without references, blanks at its ends, and escapes. -/
def fenceInfo (s : List Char) : List Char := dropEscapes (trimSpace (replaceEntities s))

/-- The block that an open one becomes, if any, and the definitions known then. Definitions at the start
of a paragraph are taken off it. -/
def Open.close (ds : Definitions) (o : Open) : Option Block × Definitions :=
  let b := o.blankBehind
  let children := o.children.reverse
  match o.kind with
  | .document => (none, ds)
  | .quote => (some (.quote b children), ds)
  | .item _ => (some (.item b children), ds)
  | .list marker sealed => (some (.list b marker (sealed.getD (Block.tightItems children)) children), ds)
  | .paragraph _ =>
    let (ds, text) := takeDefinitions (o.text.length + 1) ds o.text
    (if text.all isSpace then none else some (.paragraph b text), ds)
  | .heading level => (some (.heading b level o.text), ds)
  | .rule => (some (.rule b), ds)
  | .fenced .. =>
    let text := o.text
    (some (.code b (fenceInfo (text.takeWhile (· ≠ '\n'))) ((text.dropWhile (· ≠ '\n')).drop 1)), ds)
  | .indented => (some (.code b [] (dropBlankTail o.text)), ds)
  | .html _ => (some (.html b o.text), ds)
  | .table alignments head => (some (.table b ⟨alignments, head, o.rows.reverse⟩), ds)

/-- An open block as it would be closed with its text untouched. -/
def Open.asBlock (o : Open) : Block :=
  match o.kind with
  | .paragraph _ => .paragraph o.blankBehind o.text
  | _ => (o.close []).1.getD (.rule o.blankBehind)

/-- Puts a closed block into the block around it. -/
def Open.addChild (o : Open) (child : Option Block) : Open :=
  { o with children := child.toList ++ o.children }

/-- Closes the innermost of a chain of open blocks. -/
def closeInnermost (ds : Definitions) : List Open → List Open × Definitions
  | [] => ([], ds)
  | [o] => ([o], ds)
  | o :: p :: rest =>
    let (child, ds) := o.close ds
    (p.addChild child :: rest, ds)

/-- The state of reading: the open blocks that the line continues or opens, innermost first, and those
it does not continue, innermost first. -/
structure Chain where
  current : List Open
  pending : List Open := []
  definitions : Definitions := []

namespace Chain

/-- Closes the blocks that the line does not continue. -/
def closePending (c : Chain) : Chain := go c.pending.length c
where
  go : Nat → Chain → Chain
    | 0, c => c
    | fuel + 1, c =>
      match c.pending with
      | [] => c
      | [o] =>
        match c.current with
        | [] => { c with pending := [] }
        | p :: rest =>
          let (child, ds) := o.close c.definitions
          { current := p.addChild child :: rest, pending := [], definitions := ds }
      | o :: p :: rest =>
        let (child, ds) := o.close c.definitions
        go fuel { c with pending := p.addChild child :: rest, definitions := ds }

/-- Closes blocks that may not hold a new one. -/
def closeUnfit (item : Bool) : Nat → Chain → Chain
  | 0, c => c
  | fuel + 1, c =>
    match c.current with
    | o :: _ =>
      if o.mayHold item then c
      else
        let (current, ds) := closeInnermost c.definitions c.current
        closeUnfit item fuel { c with current, definitions := ds }
    | [] => c

/-- The items of a list that ends with this line, the open ones as they are. -/
def itemsSoFar (list : Open) (pending : List Open) : List Block :=
  match pending.foldl (fun inner o =>
      some ({ o with children := inner.toList ++ o.children } : Open).asBlock) none with
  | some b => (b :: list.children).reverse
  | none => list.children.reverse

/-- A list that cannot hold a new block ends before its open items do. -/
def sealList (c : Chain) (item : Bool) : Chain :=
  match c.current with
  | o :: rest =>
    match o.kind with
    | .list marker none =>
      if o.mayHold item then c
      else
        let tight := Block.tightItems (itemsSoFar o c.pending)
        { c with current := { o with kind := .list marker (some tight) } :: rest }
    | _ => c
  | [] => c

/-- Opens a block inside the current one. -/
def openBlock (c : Chain) (o : Open) : Chain :=
  let item := match o.kind with
    | .item _ => true
    | _ => false
  let c := (c.sealList item).closePending
  let c := c.closeUnfit item c.current.length
  { c with current := o :: c.current }

/-- Changes the current block. -/
def modify (c : Chain) (f : Open → Open) : Chain :=
  match c.current with
  | o :: rest => { c with current := f o :: rest }
  | [] => c

/-- Whether the innermost open block is a paragraph. -/
def endsInParagraph (c : Chain) : Bool :=
  match c.pending with
  | o :: _ => o.isParagraph
  | [] => c.current.head?.any Open.isParagraph

end Chain

/-! ## Continuing blocks -/

/-- A run of one sign at the start of a text: its length, if the line can close a fence with it. -/
def closingFence (sign : Char) (s : List Char) : Nat :=
  let run := s.takeWhile (· = sign)
  if 3 ≤ run.length && ((s.dropWhile (· = sign)).dropWhile isBlankChar).head?.any isLineEnd then
    run.length
  else 0

/-- Drops at most `n` blanks. -/
def skipUpTo : Nat → Cursor → Cursor
  | 0, c => c
  | n + 1, c => if c.rest.head?.any isBlankChar then skipUpTo n (c.advanceColumns 1) else c

/-- How a line goes on with an open block. -/
inductive Continuation where
  | continues (c : Cursor)
  | ends
  /-- The line closes a fence and has nothing else. -/
  | fenceCloses

/-- Tries to go on with an open block; `hasOpen` says whether a block inside it is open. -/
def Open.goOn (o : Open) (hasOpen : Bool) (c : Cursor) : Continuation :=
  match o.kind with
  | .document | .list .. | .rule => .continues c
  | .quote =>
    if c.indent ≤ 3 && c.body.head? = some '>' then
      .continues (c.advanceColumns (c.indent + 1)).skipBlank
    else .ends
  | .item indent =>
    if indent ≤ c.indent then .continues (c.advanceColumns indent)
    else if c.isBlank && (hasOpen || !o.children.isEmpty) then .continues c.skipBlanks
    else .ends
  | .paragraph _ => if c.isBlank then .ends else .continues c
  | .heading _ => .ends
  | .fenced sign length offset =>
    if c.indent ≤ 3 && length ≤ closingFence sign c.body then .fenceCloses
    else .continues (skipUpTo offset c)
  | .indented =>
    if 4 ≤ c.indent then .continues (c.advanceColumns 4)
    else if c.isBlank then .continues c.skipBlanks
    else .ends
  | .html kind => if kind.endsAtBlank && c.isBlank then .ends else .continues c
  | .table .. => if (readRow? c.body).isSome then .continues c else .ends

/-- Goes on with open blocks, outermost first. The blocks passed so far come innermost first. Gives those
and the ones that end, innermost first, and the place reached; none if the line closes the innermost
block and has nothing else. -/
def continueBlocks (passed : List Open) (c : Cursor) : List Open → Option (List Open × List Open × Cursor)
  | [] => some (passed, [], c)
  | o :: inner =>
    match o.goOn (!inner.isEmpty) c with
    | .continues c => continueBlocks (o :: passed) c inner
    | .ends => some (passed, (o :: inner).reverse, c)
    | .fenceCloses => none

/-! ## Opening blocks -/

/-- A marker of an item: the kind of list, and the length of the marker. In place of a paragraph's line
the item must not be empty, and its number must be one. -/
def readMarker? (inParagraph : Bool) (s : List Char) : Option (ListMarker × Nat) :=
  let emptyBehind (rest : List Char) : Bool := (rest.dropWhile isBlankChar).head?.any isLineEnd
  match s with
  | c :: rest =>
    if c = '*' || c = '-' || c = '+' then
      if !rest.head?.any isSpace || (inParagraph && emptyBehind rest) then none
      else some (⟨false, c, 1⟩, 1)
    else
      let digits := (s.take 9).takeWhile isAsciiDigit
      let number := digits.foldl (fun n d => n * 10 + (d.toNat - '0'.toNat)) 0
      match s.drop digits.length with
      | sign :: rest =>
        if digits.isEmpty || (sign ≠ '.' && sign ≠ ')') || !rest.head?.any isSpace ||
            (inParagraph && (number ≠ 1 || emptyBehind rest)) then none
        else some (⟨true, sign, number⟩, digits.length + 1)
      | [] => none
  | [] => none

/-- The level of a heading that starts with hash signs, and the characters before its text. -/
def headingStart? (s : List Char) : Option (Nat × Nat) :=
  let level := (s.takeWhile (· = '#')).length
  let rest := s.drop level
  if level = 0 || 6 < level then none
  else if rest.head?.any isLineEnd then some (level, level + 1)
  else
    let blanks := (rest.takeWhile isBlankChar).length
    if blanks = 0 then none else some (level, level + blanks)

/-- The sign and the length of a fence that starts with a line. Backticks may not stand behind one of
backticks. -/
def fenceStart? (s : List Char) : Option (Char × Nat) :=
  match s with
  | c :: _ =>
    if c = '`' || c = '~' then
      let n := (s.takeWhile (· = c)).length
      if n < 3 || (c = '`' && (s.drop n).contains '`') then none else some (c, n)
    else none
  | [] => none

/-- The level of the heading that an underline makes of the paragraph above it. -/
def underlineLevel? (s : List Char) : Option Nat :=
  let ends (sign : Char) : Bool :=
    s.head? = some sign && ((s.dropWhile (· = sign)).dropWhile isBlankChar).head?.any isLineEnd
  if ends '=' then some 1 else if ends '-' then some 2 else none

/-- Three or more of one sign and blanks: a rule between paragraphs. -/
def isRule (s : List Char) : Bool :=
  let signs := s.filter fun c => !isBlankChar c && !isLineEnd c
  3 ≤ signs.length && (signs.all (· = '*') || signs.all (· = '-') || signs.all (· = '_'))

/-- The text of a heading without the hash signs that close it. -/
def headingText (s : List Char) : List Char :=
  let s := trimEndSpace s
  let open' := dropEndWhile (· = '#') s
  if open'.isEmpty then []
  else if open'.length < s.length && open'.getLast?.any isBlankChar then trimEndSpace open'
  else s

/-- What a line has opened so far. -/
structure Opening where
  chain : Chain
  cursor : Cursor

/-- Where the content of an item starts, `n` columns or one behind its marker, and the place reached. -/
def itemStart (markerLength : Nat) (c : Cursor) : Nat × Cursor :=
  let far := skipUpTo 6 c
  let columns := far.column - c.column
  if columns = 0 || 5 ≤ columns || far.rest.head?.any isLineEnd then
    (markerLength + 1, if columns = 0 then c else c.advanceColumns 1)
  else (markerLength + columns, far)

/-- Opens an item, and a list around it unless the current block is one of its kind. -/
def openItem (line : Nat) (chain : Chain) (c : Cursor) (marker : ListMarker) (length : Nat) : Opening :=
  let indent := c.indent
  let (padding, after) := itemStart length (c.advance (c.margin.chars + length))
  let fits := match chain.current.head?.map (·.kind) with
    | some (.list m _) => m.agrees marker
    | _ => false
  let chain := if fits then chain
    else chain.openBlock ⟨.list marker none, line, false, [], [], []⟩
  ⟨chain.openBlock ⟨.item (indent + padding), line, false, [], [], []⟩, after⟩

/-- Makes a table of a paragraph if the line is its row of alignments. Lines of the paragraph before the
head stay a paragraph. -/
def openTable? (line : Nat) (chain : Chain) (c : Cursor) : Option Opening :=
  match chain.current with
  | p :: parent :: rest =>
    if p.isParagraph && isAlignmentRow c.body then
      match readRow? c.body, readRow? p.text with
      | some marks, some head =>
        if marks.cells.length = head.cells.length then
          let before := trimSpace (plainPipes (p.text.take head.offset))
          let parent := if head.offset = 0 then parent
            else { parent with children := .paragraph false before :: parent.children }
          let table : Open := ⟨.table (marks.cells.map alignmentOf) head.cells, line, false, [], [], []⟩
          some ⟨{ chain with current := table :: parent :: rest }, c.toLineEnd⟩
        else none
      | _, _ => none
    else none
  | _ => none

/-- A line that has opened this many blocks opens no more items. -/
def maxItemDepth : Nat := 99

/-- Opens at most one block at a place. Gives what has been opened, and whether more blocks may be opened
inside; none if nothing starts here. `depth` blocks have been opened on this line, and `lazy` holds if
the line may go on with an open paragraph. -/
def openOne? (line depth : Nat) (lazy allContinue : Bool) (s : Opening) : Option (Opening × Bool) :=
  let chain := s.chain
  let c := s.cursor
  let start : Open := ⟨.rule, line, false, [], [], []⟩
  match chain.current with
  | [] => none
  | o :: _ =>
    let body := c.body
    let chars := c.margin.chars
    if 4 ≤ c.indent then
      if lazy || c.isBlank then none
      else some (⟨chain.openBlock { start with kind := .indented }, c.advanceColumns 4⟩, false)
    else if body.head? = some '>' then
      some (⟨chain.openBlock { start with kind := .quote }, (c.advance (chars + 1)).skipBlank⟩, true)
    else
      match headingStart? body with
      | some (level, n) =>
        some (⟨chain.openBlock { start with kind := .heading level }, c.advance (chars + n)⟩, false)
      | none =>
      match fenceStart? body with
      | some (sign, n) =>
        some (⟨chain.openBlock { start with kind := .fenced sign n chars }, c.advance (chars + n)⟩, false)
      | none =>
      match Tag.interruptingBlock? body with
      | some kind => some (⟨chain.openBlock { start with kind := .html kind }, c⟩, false)
      | none =>
      if !o.isParagraph && Tag.isLoneTag body then
        some (⟨chain.openBlock { start with kind := .html .lone }, c⟩, false)
      else
      match if o.isParagraph then underlineLevel? body else none with
      | some level =>
        let (ds, text) := takeDefinitions (o.text.length + 1) chain.definitions o.text
        let chain := { chain with definitions := ds }
        if text.all isSpace then
          some (⟨chain.modify fun o => { o with lines := [text] }, c⟩, false)
        else
          let chain := chain.modify fun o => { o with kind := .heading level, lines := [text] }
          some (⟨chain, c.toLineEnd⟩, false)
      | none =>
      if isRule body && !(o.isParagraph && !allContinue) then
        some (⟨chain.openBlock start, c.toLineEnd⟩, false)
      else
      match if depth < maxItemDepth then readMarker? o.isParagraph body else none with
      | some (marker, length) => some (openItem line chain c marker length, true)
      | none =>
        match o.kind with
        | .table alignments _ =>
          if c.isBlank then none
          else
            (readRow? body).map fun row =>
              let cells := fitCells alignments.length row.cells
              (⟨chain.modify fun o => { o with rows := cells :: o.rows }, c.toLineEnd⟩, false)
        | .paragraph noTable =>
          if noTable then none
          else
            match openTable? line chain c with
            | some opened => some (opened, false)
            | none =>
              if isAlignmentRow body then
                some (⟨chain.modify fun o => { o with kind := .paragraph true }, c⟩, false)
              else none
        | _ => none

/-- Opens blocks as long as they start one inside the other. `depth` is the number of blocks that the
line has opened so far. -/
def openAll (line : Nat) (lazy allContinue : Bool) (depth : Nat) : Nat → Opening → Opening
  | 0, s => s
  | fuel + 1, s =>
    if s.chain.current.head?.any Open.isLiteral then s
    else
      match openOne? line depth lazy allContinue s with
      | some (s, true) => openAll line false allContinue (depth + 1) fuel s
      | some (s, false) => s
      | none => s

/-! ## Text -/

/-- Notes a blank line behind the last child of the current block. -/
def markLastChild (chain : Chain) : Chain :=
  match chain.pending.reverse with
  | outer :: inner => { chain with pending := ({ outer with blankBehind := true } :: inner).reverse }
  | [] => chain.modify fun o =>
    match o.children with
    | b :: rest => { o with children := b.setBlankBehind true :: rest }
    | [] => o

/-- Whether a blank line counts as the end of the current block; `hasOpen` says whether a block inside it
is open. -/
def countsBlank (line : Nat) (hasOpen : Bool) (o : Open) : Bool :=
  match o.kind with
  | .quote | .heading _ | .rule | .fenced .. => false
  | .item _ => hasOpen || !o.children.isEmpty || o.line ≠ line
  | .table .. => o.line = line
  | _ => true

/-- Takes what is left of a line as text of the current block. -/
def takeText (line : Nat) (s : Opening) : Chain :=
  let c := s.cursor
  let blank := c.isBlank
  let chain := if blank then markLastChild s.chain else s.chain
  let hasOpen := !chain.pending.isEmpty
  let chain := match chain.current with
    | o :: outer =>
      { chain with
        current := { o with blankBehind := blank && countsBlank line hasOpen o } ::
          outer.map fun (p : Open) => { p with blankBehind := false } }
    | [] => chain
  match chain.pending with
  | p :: inner =>
    if !blank && p.isParagraph then
      { chain with current := p.addLine c.text :: inner ++ chain.current, pending := [] }
    else takeOwn chain.closePending
  | [] => takeOwn chain
where
  /-- Adds the text to the current block itself. -/
  takeOwn (chain : Chain) : Chain :=
    let c := s.cursor
    match chain.current with
    | [] => chain
    | o :: _ =>
      match o.kind with
      | .fenced .. | .indented => chain.modify (·.addLine c.text)
      | .html kind =>
        let chain := chain.modify (·.addLine c.text)
        if kind.endsIn c.body then
          let (current, ds) := closeInnermost chain.definitions chain.current
          { chain with current, definitions := ds }
        else chain
      | _ =>
        if c.isBlank then chain
        else
          match o.kind with
          | .heading _ => chain.modify (·.addLine (headingText c.skipBlanks.text))
          | .paragraph _ => chain.modify (·.addLine c.skipBlanks.text)
          | _ =>
            (chain.openBlock ⟨.paragraph false, line, false, [], [], []⟩).modify
              (·.addLine c.skipBlanks.text)

/-! ## Documents -/

/-- Reads one line, which ends in a line feed. Lines are counted from 1; a mark of byte order in front of
the first one is passed over. -/
def readLine (line : Nat) (chain : Chain) (s : List Char) : Chain :=
  let s := if line = 1 && s.head? = some (Char.ofNat 0xfeff) then s.drop 1 else s
  match chain.current.reverse with
  | [] => chain
  | document :: inner =>
    match continueBlocks [document] ⟨s, 0, false⟩ inner with
    | none =>
      let (current, ds) := closeInnermost chain.definitions chain.current
      { chain with current, definitions := ds }
    | some (passed, pending, c) =>
      let chain := { chain with current := passed, pending }
      takeText line
        (openAll line chain.endsInParagraph pending.isEmpty 0 (s.length + 1) ⟨chain, c⟩)

/-- The lines of a document, each with a line feed. Line feeds, carriage returns and both together end
lines; a NUL becomes the replacement character. -/
def documentLines : List Char → List (List Char)
  | [] => []
  | '\r' :: '\n' :: rest => ['\n'] :: documentLines rest
  | '\r' :: rest => ['\n'] :: documentLines rest
  | '\n' :: rest => ['\n'] :: documentLines rest
  | c :: rest =>
    let c := if c = '\x00' then Char.ofNat 0xfffd else c
    match documentLines rest with
    | l :: ls => (c :: l) :: ls
    | [] => [[c, '\n']]

/-- Reads lines one after the other. -/
def readLines : Nat → Chain → List (List Char) → Chain
  | _, chain, [] => chain
  | line, chain, l :: ls => readLines (line + 1) (readLine line chain l) ls

/-- Closes all blocks but the document. -/
def Chain.closeAll (c : Chain) : Chain :=
  let n := c.current.length - 1
  ({ c with current := c.current.drop n, pending := c.pending ++ c.current.take n } : Chain).closePending

/-- The blocks of a document, and its link definitions. -/
def readBlocks (s : List Char) : List Block × Definitions :=
  let start : Chain := ⟨[⟨.document, 0, false, [], [], []⟩], [], []⟩
  let chain := (readLines 1 start (documentLines s)).closeAll
  ((chain.current.head?.map (·.children.reverse)).getD [], chain.definitions)

end DeckPress.Markdown
