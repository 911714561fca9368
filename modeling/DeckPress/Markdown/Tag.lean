import DeckPress.Text.Case
import DeckPress.Markdown.Cursor

/-!
# HTML syntax inside markdown

Tags, comments, processing instructions, declarations and character data, as far as markdown has to
recognize them. A reader of a piece of syntax takes a text and gives what follows the piece.
-/

namespace DeckPress.Markdown.Tag

open Text

def isNameChar (c : Char) : Bool := isAsciiAlnum c || c = '-'

/-- A tag name. -/
def skipName? : List Char → Option (List Char)
  | c :: rest => if isAsciiAlpha c then some (rest.dropWhile isNameChar) else none
  | [] => none

def isAttributeStart (c : Char) : Bool := isAsciiAlpha c || c = '_' || c = ':'

def isAttributeChar (c : Char) : Bool :=
  isAsciiAlnum c || c = '_' || c = ':' || c = '.' || c = '-'

def isUnquotedChar (c : Char) : Bool :=
  !(isWideSpace c || ['"', '\'', '=', '<', '>', '`'].contains c)

/-- The value of an attribute behind its equals sign. -/
def skipValue? (s : List Char) : Option (List Char) :=
  match skipWideSpace s with
  | '"' :: rest => (splitAt? ['"'] rest).map (·.2)
  | '\'' :: rest => (splitAt? ['\''] rest).map (·.2)
  | c :: rest => if isUnquotedChar c then some (rest.dropWhile isUnquotedChar) else none
  | [] => none

/-- What follows the attributes of a tag and its closing bracket. -/
def skipAttributes? : Nat → List Char → Option (List Char)
  | 0, _ => none
  | fuel + 1, s =>
    match skipWideSpace s with
    | '>' :: rest => some rest
    | '/' :: '>' :: rest => some rest
    | c :: rest =>
      if isAttributeStart c && s.head?.any isWideSpace then
        let rest := rest.dropWhile isAttributeChar
        match skipWideSpace rest with
        | '=' :: value => (skipValue? value).bind (skipAttributes? fuel)
        | _ => skipAttributes? fuel rest
      else none
    | [] => none

/-- An opening tag behind its bracket. -/
def skipOpenTag? (s : List Char) : Option (List Char) :=
  (skipName? s).bind (skipAttributes? (s.length + 1))

/-- A closing tag behind its bracket. -/
def skipCloseTag? : List Char → Option (List Char)
  | '/' :: s =>
    match (skipName? s).map skipWideSpace with
    | some ('>' :: rest) => some rest
    | _ => none
  | _ => none

/-- An opening or closing tag behind its bracket. -/
def skipTag? (s : List Char) : Option (List Char) :=
  match s with
  | '/' :: _ => skipCloseTag? s
  | _ => skipOpenTag? s

/-! ## Blocks of HTML -/

/-- The ways in which a block of HTML may start, which decide how it ends. -/
inductive BlockKind where
  /-- One of four elements whose content is not markdown. -/
  | verbatim
  | comment
  | instruction
  | declaration
  | characterData
  /-- An element that makes a block. -/
  | element
  /-- Any other tag alone on a line. -/
  | lone
  deriving DecidableEq, Repr

def verbatimElements : List String := ["script", "pre", "textarea", "style"]

def blockElements : List String :=
  ["address", "article", "aside", "base", "basefont", "blockquote", "body", "caption", "center", "col",
    "colgroup", "dd", "details", "dialog", "dir", "div", "dl", "dt", "fieldset", "figcaption", "figure",
    "footer", "form", "frame", "frameset", "h1", "h2", "h3", "h4", "h5", "h6", "head", "header", "hr",
    "html", "iframe", "legend", "li", "link", "main", "menu", "menuitem", "nav", "noframes", "ol",
    "optgroup", "option", "p", "param", "section", "source", "summary", "table", "tbody", "td", "tfoot",
    "th", "thead", "title", "tr", "track", "ul"]

/-- The longest name at the start of a text in lower case, and what follows it. -/
def splitName (s : List Char) : String × List Char :=
  (String.ofList ((s.takeWhile isAsciiAlnum).map asciiLower), s.dropWhile isAsciiAlnum)

/-- The ways to start that may also end a paragraph. -/
def interruptingBlock? : List Char → Option BlockKind
  | '<' :: s =>
    let (name, after) := splitName s
    if verbatimElements.contains name && after.head?.any fun c => isWideSpace c || c = '>' then
      some .verbatim
    else if startsWith "!--".toList s then some .comment
    else if startsWith "?".toList s then some .instruction
    else if startsWith "![cdata[".toList (s.map asciiLower) then some .characterData
    else
      match s with
      | '!' :: c :: _ => if isAsciiUpper c then some .declaration else none
      | _ =>
        let (name, after) := splitName (if s.head? = some '/' then s.drop 1 else s)
        let ends := match after with
          | '/' :: '>' :: _ => true
          | c :: _ => isWideSpace c || c = '>'
          | [] => false
        if blockElements.contains name && ends then some .element else none
  | _ => none

/-- A tag that is alone on its line. -/
def isLoneTag : List Char → Bool
  | '<' :: s =>
    match skipTag? s with
    | some rest => (rest.dropWhile fun c => isBlankChar c || c = '\x0c').head?.any isLineEnd
    | none => false
  | _ => false

/-- Whether a line ends a block of HTML that it belongs to. -/
def BlockKind.endsIn (k : BlockKind) (line : List Char) : Bool :=
  match k with
  | .verbatim => verbatimElements.any fun name =>
      containsText ("</".toList ++ name.toList ++ ['>']) (line.map asciiLower)
  | .comment => containsText "-->".toList line
  | .instruction => containsText "?>".toList line
  | .declaration => containsText ">".toList line
  | .characterData => containsText "]]>".toList line
  | .element => false
  | .lone => false

/-- Whether a blank line ends a block of HTML. -/
def BlockKind.endsAtBlank (k : BlockKind) : Bool := k = .element || k = .lone

/-! ## HTML inside a line -/

/-- The text behind the end of a comment. A lone hyphen, and two that no `>` follows, take the sign behind
them into the comment. -/
def skipComment? : List Char → Option (List Char)
  | '-' :: '-' :: c :: rest => if c = '>' then some rest else skipComment? rest
  | '-' :: c :: rest => if c = '-' then none else skipComment? rest
  | '-' :: [] => none
  | _ :: rest => skipComment? rest
  | [] => none

/-- The text behind the end of character data. Brackets that do not end it take the sign behind them into
the data. -/
def skipData? : List Char → Option (List Char)
  | ']' :: ']' :: c :: rest => if c = '>' then some rest else skipData? rest
  | ']' :: c :: rest => if c = ']' then none else skipData? rest
  | ']' :: [] => none
  | _ :: rest => skipData? rest
  | [] => none

/-- The text behind the end of a processing instruction. A question mark that does not end it takes the
sign behind it into the instruction. -/
def skipInstruction? : List Char → Option (List Char)
  | '?' :: c :: rest => if c = '>' then some rest else skipInstruction? rest
  | '?' :: [] => none
  | _ :: rest => skipInstruction? rest
  | [] => none

/-- What has been found to have no end in a text. It is not looked for again. -/
structure Unclosed where
  /-- A comment; behind one nothing that starts with `<!` is read. -/
  comment : Bool := false
  characterData : Bool := false
  declaration : Bool := false
  instruction : Bool := false
  deriving Repr

/-- A piece that needs an end, and what is known then: `mark` notes that the end is missing. -/
def orMark (mark : Unclosed) (u : Unclosed) (found : Option (List Char)) :
    Option (List Char) × Unclosed :=
  (found, if found.isSome then u else mark)

/-- A comment, character data or a declaration behind `<!`. -/
def skipMarkup? (u : Unclosed) (s : List Char) : Option (List Char) × Unclosed :=
  match s with
  | '-' :: '-' :: '>' :: rest => (some rest, u)
  | '-' :: '-' :: '-' :: '>' :: rest => (some rest, u)
  | '-' :: '-' :: rest => orMark { u with comment := true } u (skipComment? rest)
  | '[' :: rest =>
    if !u.characterData && startsWith "cdata[".toList ((rest.take 6).map asciiLower) then
      orMark { u with characterData := true } u (skipData? (rest.drop 6))
    else (none, u)
  | _ =>
    let rest := s.dropWhile isAsciiUpper
    if !u.declaration && s.head?.any isAsciiUpper && rest.head?.any isWideSpace then
      orMark { u with declaration := true } u ((splitAt? ['>'] rest).map (·.2))
    else (none, u)

/-- Any piece of HTML behind its bracket, and what is known to have no end then. -/
def skipInline? (u : Unclosed) (s : List Char) : Option (List Char) × Unclosed :=
  match s with
  | '!' :: rest => if u.comment then (none, u) else skipMarkup? u rest
  | '?' :: rest =>
    if u.instruction then (none, u)
    else orMark { u with instruction := true } u (skipInstruction? rest)
  | _ => (skipTag? s, u)

end DeckPress.Markdown.Tag
