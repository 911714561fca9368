import DeckPress.Text.Basic

/-!
# Places in a line

Block structure depends on columns, and a tab reaches to the next multiple of four. A cursor is a place in
a line: what is left of the line, the column, and whether the place is inside a tab of which only some
columns have been used. A line ends in a line feed.
-/

namespace DeckPress.Markdown

open Text

def isBlankChar (c : Char) : Bool := c = ' ' || c = '\t'

def isLineEnd (c : Char) : Bool := c = '\n' || c = '\r'

/-- A blank or a line end. Form feeds and vertical tabs are plain text. -/
def isSpace (c : Char) : Bool := isBlankChar c || isLineEnd c

/-- The white space inside a tag, the parentheses of a link or a row of a table, where form feeds and
vertical tabs count too. -/
def isWideSpace (c : Char) : Bool := c = ' ' || (0x09 ≤ c.toNat && c.toNat ≤ 0x0d)

def skipWideSpace (s : List Char) : List Char := s.dropWhile isWideSpace

def trimStartSpace (s : List Char) : List Char := s.dropWhile isSpace

def trimEndSpace (s : List Char) : List Char := dropEndWhile isSpace s

def trimSpace (s : List Char) : List Char := trimEndSpace (trimStartSpace s)

/-- The columns from a column to the next tab stop. -/
def toTabStop (column : Nat) : Nat := 4 - column % 4

/-- A place in a line. -/
structure Cursor where
  rest : List Char
  column : Nat := 0
  /-- Whether `rest` starts with a tab that is used up in part. -/
  insideTab : Bool := false
  deriving Repr

/-- The blanks at a place: how many characters they are and how many columns they take. -/
structure Margin where
  chars : Nat
  columns : Nat

/-- The blanks that a text starts with, at a column. -/
def marginAt (column : Nat) : List Char → Margin
  | ' ' :: cs =>
    let m := marginAt (column + 1) cs
    ⟨m.chars + 1, m.columns + 1⟩
  | '\t' :: cs =>
    let w := toTabStop column
    let m := marginAt (column + w) cs
    ⟨m.chars + 1, m.columns + w⟩
  | _ => ⟨0, 0⟩

namespace Cursor

def margin (c : Cursor) : Margin := marginAt c.column c.rest

/-- The columns of blanks at the place. -/
def indent (c : Cursor) : Nat := c.margin.columns

/-- The text behind the blanks. -/
def body (c : Cursor) : List Char := c.rest.dropWhile isBlankChar

/-- Whether only blanks are left before the end of the line. -/
def isBlank (c : Cursor) : Bool := c.body.head?.any isLineEnd

/-- Moves on by whole characters. -/
def advance : Nat → Cursor → Cursor
  | 0, c => c
  | n + 1, c =>
    match c.rest with
    | [] => c
    | d :: rest => advance n ⟨rest, c.column + (if d = '\t' then toTabStop c.column else 1), false⟩

/-- Moves on by columns; a tab may be used up in part. -/
def advanceColumns (n : Nat) (c : Cursor) : Cursor := go n n c
where
  /-- Every step uses up a column, so `fuel` is the number of columns. -/
  go : Nat → Nat → Cursor → Cursor
    | 0, _, c => c
    | _ + 1, 0, c => c
    | fuel + 1, n, c =>
      match c.rest with
      | [] => c
      | d :: rest =>
        if d = '\t' then
          let w := toTabStop c.column
          if n < w then ⟨d :: rest, c.column + n, true⟩
          else go fuel (n - w) ⟨rest, c.column + w, false⟩
        else go fuel (n - 1) ⟨rest, c.column + 1, false⟩

/-- Moves on behind the blanks. -/
def skipBlanks (c : Cursor) : Cursor := c.advance c.margin.chars

/-- Moves on behind one blank, if there is one. -/
def skipBlank (c : Cursor) : Cursor :=
  if c.rest.head?.any isBlankChar then c.advanceColumns 1 else c

/-- Moves to the end of the line. -/
def toLineEnd (c : Cursor) : Cursor := ⟨['\n'], c.column, false⟩

/-- The text from the place on. What is left of a tab becomes spaces. -/
def text (c : Cursor) : List Char :=
  if c.insideTab then List.replicate (toTabStop c.column) ' ' ++ c.rest.drop 1 else c.rest

end Cursor

end DeckPress.Markdown
