import DeckPress.Json.Value
import DeckPress.Yaml.Scalar

/-!
# YAML text of JSON values

Block style with an indentation of two, except for empty collections. A sequence inside a mapping
stands at the column of its key. Text is written plain where reading it plain gives the same text back,
otherwise in single quotes; text with line feeds becomes a literal block scalar; what neither can hold
is written in double quotes with escapes.
-/

namespace DeckPress.Yaml

open Text

/-- Floats have the fewest digits that read back; an exponent, from 10^16 up and below 10^-5, has no
plus sign. -/
def floatLayout : FloatLayout where
  largest := some 16
  smallest := some (-4)
  wholeEnd := ".0"
  positiveExponent := ""
  infinity := ".inf"
  notANumber := ".nan"

/-- Characters that may stand unescaped. -/
def isPrintable (c : Char) : Bool :=
  let n := c.toNat
  n = 0x0a || (0x20 ≤ n && n ≤ 0x7e) || (0xa0 ≤ n && n ≤ 0xd7ff) ||
    (0xe000 ≤ n && n ≤ 0xfffd && n ≠ 0xfeff) || 0x10000 ≤ n

/-- What the styles of scalars depend on. -/
structure Analysis where
  plainAllowed : Bool
  singleAllowed : Bool
  blockAllowed : Bool

/-- Whether some neighbours satisfy `p` and `q`, in this order. -/
def hasPair (p q : Char → Bool) : List Char → Bool
  | a :: b :: rest => (p a && q b) || hasPair p q (b :: rest)
  | _ => false

/-- Whether a blank, a break or the end follows. -/
def meetsBlank (s : List Char) : Bool := s.head?.all fun c => isSpaceOrTab c || isBreak c

/-- Whether a text holds signs, behind its first character, that would end a plain scalar: a colon
before a blank, or a number sign after one. -/
def hasIndicatorInside : Bool → List Char → Bool
  | _, [] => false
  | afterBlank, c :: rest =>
    (c = ':' && meetsBlank rest) || (c = '#' && afterBlank) ||
      hasIndicatorInside (isSpaceOrTab c || isBreak c) rest

/-- Whether a text starts like something else than a plain scalar. -/
def startsWithIndicator (s : List Char) : Bool :=
  startsWith "---".toList s || startsWith "...".toList s ||
    match s with
    | [] => false
    | c :: rest =>
      ['#', ',', '[', ']', '{', '}', '&', '*', '!', '|', '>', '\'', '"', '%', '@', '`'].contains c ||
        ((c = '?' || c = ':' || c = '-') && meetsBlank rest)

/-- Looks a text over. -/
def analyze (s : List Char) : Analysis :=
  let space := fun c : Char => c = ' '
  let special := s.any fun c => !isPrintable c
  let lineBreaks := s.any isBreak
  let edge := fun c : Char => c = ' ' || isBreak c
  let breakSpace := hasPair isBreak space s
  let spaceBreak := hasPair space isBreak s
  let indicators := startsWithIndicator s ||
    match s with
    | [] => false
    | c :: rest => hasIndicatorInside (isSpaceOrTab c || isBreak c) rest
  { plainAllowed := !(s.head?.any edge || s.getLast?.any edge || breakSpace || spaceBreak || special ||
      lineBreaks || indicators)
    singleAllowed := !(breakSpace || spaceBreak || special)
    blockAllowed := !(s.isEmpty || s.getLast?.any space || spaceBreak || special) }

/-- The style of a text: `key` holds where the text is a key on one line. -/
def styleOf (key : Bool) (s : String) : Style :=
  let cs := s.toList
  let a := analyze cs
  let quoted := if a.singleAllowed then Style.singleQuoted else .doubleQuoted
  if cs.contains '\n' then
    if a.blockAllowed && !key then .literal else .doubleQuoted
  else
    match Plain.of s with
    | .text => if leadingZero cs then quoted else if a.plainAllowed then .plain else quoted
    | _ => quoted

def upperHexDigit (n : Nat) : Char := "0123456789ABCDEF".toList.getD n '0'

/-- `n` in upper case hexadecimal with a fixed number of digits. -/
def fixedHex (width n : Nat) : List Char :=
  (List.range width).map fun i => upperHexDigit (n / Nat.pow 16 (width - 1 - i) % 16)

/-- One character between double quotes. -/
def doubleQuotedChar (c : Char) : List Char :=
  let n := c.toNat
  if isPrintable c && !isBreak c && c ≠ '"' && c ≠ '\\' then [c]
  else
    let letter? : Option Char :=
      [(0, '0'), (7, 'a'), (8, 'b'), (9, 't'), (10, 'n'), (11, 'v'), (12, 'f'), (13, 'r'), (27, 'e'),
        (0x22, '"'), (0x5c, '\\'), (0x85, 'N'), (0xa0, '_'), (0x2028, 'L'), (0x2029, 'P')].lookup n
    match letter? with
    | some x => ['\\', x]
    | none =>
      if n ≤ 0xff then ['\\', 'x'] ++ fixedHex 2 n
      else if n ≤ 0xffff then ['\\', 'u'] ++ fixedHex 4 n
      else ['\\', 'U'] ++ fixedHex 8 n

def spaces (n : Nat) : List Char := List.replicate n ' '

/-- The body of a single quoted scalar. Line breaks are doubled where they start a gap, and the line
after them is indented. -/
def singleQuotedBody (indent : Nat) : Bool → List Char → List Char
  | afterBreak, [] => if afterBreak then spaces indent else []
  | afterBreak, c :: rest =>
    if isBreak c then
      (if !afterBreak && c = '\n' then ['\n', '\n'] else [c]) ++ singleQuotedBody indent true rest
    else
      (if afterBreak then spaces indent else []) ++ (if c = '\'' then ['\'', '\''] else [c]) ++
        singleQuotedBody indent false rest

/-- The lines of a literal block scalar; empty lines are not indented. -/
def literalBody (indent : Nat) : Bool → List Char → List Char
  | _, [] => []
  | lineStart, c :: rest =>
    if isBreak c then c :: literalBody indent true rest
    else (if lineStart then spaces indent else []) ++ c :: literalBody indent false rest

/-- The signs behind the bar of a literal block scalar. -/
def literalHints (s : List Char) : List Char :=
  let indentation := if s.head?.any fun c => c = ' ' || isBreak c then ['2'] else []
  let chomping := match s.reverse with
    | [] => ['-']
    | [c] => if isBreak c then ['+'] else ['-']
    | c :: d :: _ => if !isBreak c then ['-'] else if isBreak d then ['+'] else []
  indentation ++ chomping

/-- A text in the given style, for a parent at column `indent`. -/
def renderText (indent : Nat) (style : Style) (s : List Char) : List Char :=
  match style with
  | .plain => s
  | .singleQuoted => '\'' :: singleQuotedBody (indent + 2) false s ++ ['\'']
  | .doubleQuoted => '"' :: s.flatMap doubleQuotedChar ++ ['"']
  | _ => '|' :: literalHints s ++ '\n' :: literalBody (indent + 2) true s

/-- Ends the line unless the text already does. -/
def endLine (s : List Char) : List Char := if s.getLast?.any isBreak then s else s ++ ['\n']

/-- Whether a key fits on its line: no line breaks and at most 128 bytes. -/
def isSimpleKey (key : String) : Bool := !key.toList.any isBreak && key.utf8ByteSize ≤ 128

mutual

/-- The fields of a mapping whose keys stand at column `indent`. The first key is already indented
where `inline` holds. -/
def renderFields (indent : Nat) (inline : Bool) : List (String × Json) → List Char
  | [] => []
  | (key, value) :: rest =>
    (if inline then [] else spaces indent) ++
      (if isSimpleKey key then
        renderText indent (styleOf true key) key.toList ++ ':' :: renderUnderKey indent value
      else
        "? ".toList ++ endLine (renderText indent (styleOf false key) key.toList) ++ spaces indent ++
          ':' :: renderUnderMark indent value) ++
      renderFields indent false rest

/-- The items of a sequence whose marks stand at column `indent`. -/
def renderItems (indent : Nat) (inline : Bool) : List Json → List Char
  | [] => []
  | value :: rest =>
    (if inline then [] else spaces indent) ++ '-' :: renderUnderMark indent value ++
      renderItems indent false rest

/-- A value behind the colon of its key. -/
def renderUnderKey (indent : Nat) : Json → List Char
  | .obj (f :: fs) => '\n' :: renderFields (indent + 2) false (f :: fs)
  | .arr (v :: vs) => '\n' :: renderItems indent false (v :: vs)
  | value => ' ' :: renderLeaf indent value

/-- A value behind the mark of a sequence entry, on the same line. -/
def renderUnderMark (indent : Nat) : Json → List Char
  | .obj (f :: fs) => ' ' :: renderFields (indent + 2) true (f :: fs)
  | .arr (v :: vs) => ' ' :: renderItems (indent + 2) true (v :: vs)
  | value => ' ' :: renderLeaf indent value

/-- A scalar or an empty collection, with the end of its line. -/
def renderLeaf (indent : Nat) : Json → List Char
  | .null => "null\n".toList
  | .bool true => "true\n".toList
  | .bool false => "false\n".toList
  | .int n => (toString n).toList ++ ['\n']
  | .float x => (floatLayout.render x).toList ++ ['\n']
  | .str s => endLine (renderText indent (styleOf false s) s.toList)
  | .arr _ => "[]\n".toList
  | .obj _ => ['{', '}', '\n']

end

/-- The YAML text of a mapping that is not empty. -/
def render (fields : Fields) : String := String.ofList (renderFields 0 false fields)

end DeckPress.Yaml
