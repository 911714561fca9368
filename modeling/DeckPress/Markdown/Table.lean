import DeckPress.Markdown.Cursor

/-!
# Rows of tables

A table starts with two rows: its head, and a row of hyphens that says how the columns are aligned. Pipes
separate the cells of a row; a backslash makes a pipe part of its cell. The head is the last line of a
paragraph, whose other lines stay a paragraph.
-/

namespace DeckPress.Markdown

open Text

inductive Alignment where
  | none
  | left
  | center
  | right
  deriving DecidableEq, Repr

/-- A row: how many characters of the text stand before it, and its cells. -/
structure Row where
  offset : Nat
  cells : List (List Char)
  deriving Repr

/-- A cell up to the next pipe that has no backslash in front of it, or to the end of the line. -/
def splitCell (afterBackslash : Bool) : List Char → List Char × List Char
  | [] => ([], [])
  | c :: rest =>
    if isLineEnd c || (c = '|' && !afterBackslash) then ([], c :: rest)
    else
      let (cell, rest) := splitCell (c = '\\') rest
      (c :: cell, rest)

/-- Blanks inside a row. -/
def isRowBlank (c : Char) : Bool := isWideSpace c && !isLineEnd c

/-- A pipe and the blanks behind it. -/
def skipPipe? : List Char → Option (List Char)
  | '|' :: rest => some (rest.dropWhile isRowBlank)
  | _ => none

/-- Blanks and the end of a line. -/
def skipRowEnd? (s : List Char) : Option (List Char) :=
  match s.dropWhile isRowBlank with
  | '\n' :: rest => some rest
  | _ => none

/-- The text of a cell, in which escaped pipes are plain. -/
def plainPipes : List Char → List Char
  | '\\' :: '|' :: rest => '|' :: plainPipes rest
  | c :: rest => c :: plainPipes rest
  | [] => []

/-- Reads cells. `offset` is where the row starts in a text of `total` characters, and `acc` are the cells
so far, last one first. -/
def readCells? (total : Nat) : Nat → Nat → List (List Char) → List Char → Option Row
  | 0, _, _, _ => none
  | fuel + 1, offset, acc, s =>
    match s with
    | [] => if acc.isEmpty then none else some ⟨offset, acc.reverse⟩
    | _ =>
      let (cell, rest) := splitCell false s
      let pipe := skipPipe? rest
      let acc := if !cell.isEmpty || pipe.isSome then trimSpace (plainPipes cell) :: acc else acc
      match pipe with
      | some rest => readCells? total fuel offset acc rest
      | none =>
        match skipRowEnd? rest with
        | some [] => if acc.isEmpty then none else some ⟨offset, acc.reverse⟩
        | some rest =>
          -- the row was a line of the paragraph before the table
          readCells? total fuel (total - rest.length) [] ((skipPipe? rest).getD rest)
        | none => if rest.isEmpty && !acc.isEmpty then some ⟨offset, acc.reverse⟩ else none

/-- Reads the last row of a text. -/
def readRow? (s : List Char) : Option Row :=
  readCells? s.length (s.length + 2) 0 [] ((skipPipe? s).getD s)

/-- A mark of alignment: hyphens, perhaps with a colon at either end. -/
def isAlignmentMark (s : List Char) : Bool :=
  let s := s.dropWhile isRowBlank
  let s := if s.head? = some ':' then s.drop 1 else s
  let rest := s.dropWhile (· = '-')
  let rest' := if rest.head? = some ':' then rest.drop 1 else rest
  s.head? = some '-' && rest'.all isRowBlank

/-- A row of marks. -/
def isAlignmentRow (line : List Char) : Bool :=
  match stripSuffix? ['\n'] line with
  | none => false
  | some line =>
    let line := dropEndWhile isRowBlank line
    let line := if line.head? = some '|' then line.drop 1 else line
    let line := if line.getLast? = some '|' then line.dropLast else line
    (splitOn (· = '|') line).all isAlignmentMark

/-- The alignment that a cell of such a row stands for. -/
def alignmentOf (cell : List Char) : Alignment :=
  if cell.head? = some ':' then if cell.getLast? = some ':' then .center else .left
  else if cell.getLast? = some ':' then .right
  else .none

/-- Exactly `n` cells: what is missing is empty, what is too much is dropped. -/
def fitCells (n : Nat) (cells : List (List Char)) : List (List Char) :=
  (cells ++ List.replicate n []).take n

end DeckPress.Markdown
