import DeckPress.Error
import DeckPress.Yaml.Scalar
import DeckPress.Yaml.Printer

/-!
# Front matter

Front matter is a YAML mapping between two lines of three hyphens. A file that starts with such a line
has front matter; a deck has front matter wherever the line after a separator looks like a field.
-/

namespace DeckPress.Deck

open Text

/-- A line of text without its end. -/
abbrev Line := List Char

/-- A line that ends front matter: three hyphens and nothing else. -/
def closesFrontMatter (line : Line) : Bool := trimEnd line = ['-', '-', '-']

/-- A line that separates slides starts with three hyphens and not with four. -/
def isSeparator (line : Line) : Bool :=
  match trimEnd line with
  | '-' :: '-' :: '-' :: rest => rest.head? ≠ some '-'
  | _ => false

/-- The characters a field name may start with. -/
def startsFieldName (c : Char) : Bool := isAsciiAlpha c || c = '_' || c = '$'

/-- The characters of a field name. -/
def isFieldNameChar (c : Char) : Bool := isWord c || c = '$' || c = '-'

/-- A line that looks like a field: a name and a colon. -/
def looksLikeField (line : Line) : Bool :=
  match trimStart line with
  | c :: rest =>
    startsFieldName c && (trimStart (rest.dropWhile isFieldNameChar)).head? = some ':'
  | [] => false

/-- The run of three or more backticks or tildes that a line starts with. -/
def fenceMarker? (line : Line) : Option (List Char) :=
  match trimStart line with
  | [] => none
  | c :: rest =>
    if c = '`' || c = '~' then
      let marker := c :: rest.takeWhile (· = c)
      if 3 ≤ marker.length then some marker else none
    else none

/-- Reads the text of front matter. Blank text and null are empty front matter. -/
def readFields (raw : List Char) : Except FrontMatterFault Fields :=
  if isBlank raw then .ok []
  else
    match Yaml.toJson? raw with
    | none => .error .notYaml
    | some (.obj fields) => .ok fields
    | some .null => .ok []
    | some other => .error (.notMapping other)

/-- Takes the front matter off a file. A file that does not start with a line of three hyphens is all
body. -/
def splitFrontMatter (text : String) : Except CompileFault (Fields × String) :=
  let cs := text.toList
  match lines cs with
  | first :: rest =>
    if closesFrontMatter first then
      match rest.findIdx? closesFrontMatter with
      | none => .error .openFrontMatter
      | some close =>
        match readFields (joinLines (rest.take close)) with
        | .error fault => .error (.frontMatter fault)
        | .ok fields =>
          let body := joinLines (rest.drop (close + 1))
          .ok (fields, String.ofList (if cs.getLast? = some '\n' then body ++ ['\n'] else body))
    else .ok ([], text)
  | [] => .ok ([], text)

/-- The line among `rest` that closes the front matter of a deck: no code fence may start before it. -/
def closingLine? (rest : List Line) : Option Nat :=
  (rest.takeWhile fun l => (fenceMarker? l).isNone).findIdx? closesFrontMatter

/-- Reads only the front matter at the head of a deck. -/
def readHeadmatter (text : String) : Except FrontMatterFault Fields :=
  match lines text.toList with
  | first :: rest =>
    if isSeparator first && rest.head?.any looksLikeField then
      match closingLine? rest with
      | some close => readFields (joinLines (rest.take close))
      | none => .ok []
    else .ok []
  | [] => .ok []

/-- A file with front matter in front of its body. -/
def withFrontMatter (fields : Fields) (body : String) : String :=
  if fields.isEmpty then body else "---\n" ++ Yaml.render fields ++ "---\n" ++ body

end DeckPress.Deck
