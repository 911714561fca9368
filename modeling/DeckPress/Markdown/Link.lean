import DeckPress.Markdown.Entity
import DeckPress.Text.Case

/-!
# Links

The pieces that links, images and link definitions are made of: labels, destinations and titles. A reader
of a piece gives the piece and what follows it.
-/

namespace DeckPress.Markdown

open Text

/-- Where a link leads, and its title. -/
structure Target where
  url : List Char
  title : List Char := []
  deriving DecidableEq, Repr

/-- The link definitions of a document by their labels; of two with one label the first counts. -/
abbrev Definitions := List (List Char × Target)

/-- One character of a label in its normal form: lower case, blanks as a single space. -/
def foldLabel (afterBlank : Bool) : List Char → List Char
  | [] => []
  | c :: cs =>
    if isWhite c then if afterBlank then foldLabel true cs else ' ' :: foldLabel true cs
    else c :: foldLabel false cs

/-- The form in which labels are compared. -/
def normalLabel (s : List Char) : List Char :=
  foldLabel false ((trimSpace s).flatMap charLower)

/-- The text of a label between brackets, of at most 1000 bytes and without brackets that are not
escaped. -/
def readLabel? : List Char → Option (List Char × List Char)
  | '[' :: s => go (s.length + 1) [] s
  | _ => none
where
  /-- `acc` holds the characters read, last one first. -/
  go : Nat → List Char → List Char → Option (List Char × List Char)
    | 0, _, _ => none
    | _, _, [] => none
    | fuel + 1, acc, c :: rest =>
      if c = ']' then
        if utf8Length acc ≤ 1000 then some (trimSpace acc.reverse, rest) else none
      else if c = '[' then none
      else if c = '\\' then
        match rest with
        | d :: rest' =>
          if isAsciiPunctuation d then go fuel (d :: '\\' :: acc) rest' else go fuel ('\\' :: acc) rest
        | [] => none
      else go fuel (c :: acc) rest

/-- A destination in angle brackets, behind the first. -/
def readBracketed? : Nat → List Char → Option (List Char × List Char)
  | 0, _ => none
  | _, [] => none
  | fuel + 1, c :: rest =>
    if c = '>' then if rest.isEmpty then none else some ([], rest)
    else if c = '\\' then
      match rest with
      | d :: rest => (readBracketed? fuel rest).map fun (u, r) => ('\\' :: d :: u, r)
      | [] => none
    else if c = '\n' || c = '<' then none
    else (readBracketed? fuel rest).map fun (u, r) => (c :: u, r)

/-- A destination without angle brackets; parentheses in it come in pairs, of which `depth` are open. -/
def readBare? : Nat → Nat → List Char → Option (List Char × List Char)
  | 0, _, _ => none
  | _, _, [] => none
  | fuel + 1, depth, c :: rest =>
    if c = '\\' && rest.head?.any isAsciiPunctuation then
      (readBare? fuel depth (rest.drop 1)).map fun (u, r) => (c :: rest.take 1 ++ u, r)
    else if c = '(' then
      if depth = 32 then none else (readBare? fuel (depth + 1) rest).map fun (u, r) => (c :: u, r)
    else if c = ')' then
      if depth = 0 then some ([], c :: rest)
      else (readBare? fuel (depth - 1) rest).map fun (u, r) => (c :: u, r)
    else if isSpace c || isAsciiControl c then
      if depth = 0 then some ([], c :: rest) else none
    else (readBare? fuel depth rest).map fun (u, r) => (c :: u, r)

/-- A destination as written. Something must follow it. -/
def readDestination? (s : List Char) : Option (List Char × List Char) :=
  match s with
  | '<' :: rest => readBracketed? (rest.length + 1) rest
  | _ => readBare? (s.length + 1) 0 s

/-- The destination that a written one stands for. -/
def cleanUrl (s : List Char) : List Char := dropEscapes (replaceEntities (trimSpace s))

/-- The length of a title behind its opening sign, closing sign included. A closing sign behind a
backslash ends the title only if no other does. `best` is the place behind the last such sign. -/
def titleLength (closing : Char) (stops : Char → Bool) (best : Option Nat) (i : Nat)
    (afterBackslash : Bool) : List Char → Option Nat
  | [] => best
  | c :: rest =>
    if afterBackslash && (c = closing || stops c) then
      titleLength closing stops (if c = closing then some (i + 1) else best) (i + 1) false rest
    else if c = closing then some (i + 1)
    else if stops c then best
    else titleLength closing stops best (i + 1) (c = '\\') rest

/-- A title in quotes or parentheses, as written, and what follows it. -/
def readTitle? (s : List Char) : Option (List Char × List Char) :=
  match s with
  | c :: rest =>
    let length? : Option Nat :=
      if c = '"' || c = '\'' then titleLength c (fun _ => false) none 0 false rest
      else if c = '(' then titleLength ')' (· = '(') none 0 false rest
      else none
    length?.map fun n => (c :: rest.take n, rest.drop n)
  | [] => none

/-- The title that a written one stands for. -/
def cleanTitle (s : List Char) : List Char :=
  dropEscapes (replaceEntities (s.drop 1).dropLast)

/-- Drops blanks, at most one line end, and blanks behind it. -/
def skipBlanksAndLineEnd (s : List Char) : List Char :=
  match s.dropWhile isBlankChar with
  | '\n' :: rest => rest.dropWhile isBlankChar
  | rest => rest

/-- What follows the blanks and the end of a line, if nothing else is left on it. -/
def skipRestOfLine? (s : List Char) : Option (List Char) :=
  match s.dropWhile isBlankChar with
  | [] => some []
  | '\n' :: rest => some rest
  | _ => none

/-- A link definition: label, colon, destination and perhaps a title, with nothing behind. -/
def readDefinition? (s : List Char) : Option ((List Char × Target) × List Char) := do
  let (label, rest) ← readLabel? s
  if label.isEmpty then none
  match rest with
  | ':' :: rest =>
    let (url, rest) ← readDestination? (skipBlanksAndLineEnd rest)
    let url := cleanUrl url
    let beforeTitle := rest
    let atTitle := skipBlanksAndLineEnd rest
    let title? := if atTitle.length = beforeTitle.length then none else readTitle? atTitle
    match title? with
    | some (title, rest) =>
      match skipRestOfLine? rest with
      | some rest => return ((label, ⟨url, cleanTitle title⟩), rest)
      | none => return ((label, ⟨url, cleanTitle title⟩), ← skipRestOfLine? beforeTitle)
    | none => return ((label, ⟨url, []⟩), ← skipRestOfLine? beforeTitle)
  | _ => none

/-- The bytes that a target brings into the text. -/
def Target.size (t : Target) : Nat := utf8Length t.url + utf8Length t.title

/-- The target of a label, and what is left then of the bytes that references may bring into a document;
none if there is no definition or not enough is left. -/
def Definitions.refer? (ds : Definitions) (allowance : Nat) (label : List Char) : Option (Target × Nat) :=
  (ds.lookup (normalLabel label)).bind fun t =>
    if allowance < t.size then none else some (t, allowance - t.size)

/-- Adds a definition unless its label is blank or has one already. -/
def Definitions.add (ds : Definitions) (label : List Char) (target : Target) : Definitions :=
  let label := normalLabel label
  if label.isEmpty || (ds.lookup label).isSome then ds else ds ++ [(label, target)]

/-- Takes the definitions off the start of a paragraph. -/
def takeDefinitions : Nat → Definitions → List Char → Definitions × List Char
  | 0, ds, s => (ds, s)
  | fuel + 1, ds, s =>
    match readDefinition? s with
    | some ((label, target), rest) => takeDefinitions fuel (ds.add label target) rest
    | none => (ds, s)

end DeckPress.Markdown
