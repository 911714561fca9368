import DeckPress.Regex.Notation
import DeckPress.Text.Basic

/-!
# Reading the notation of regular expressions

Reading runs over the characters that are left. Where blanks and comments do not count, they are skipped
between the signs of the notation, also inside brackets and braces. Braces behind an expression always
hold a count, so one that does not is an error.
-/

namespace DeckPress.Regex

open Text

/-- Skips blanks, and comments up to the ends of their lines. -/
def skipComments (inComment : Bool) : List Char → List Char
  | [] => []
  | c :: s =>
    if inComment then skipComments (c ≠ '\n') s
    else if isWhite c then skipComments false s
    else if c = '#' then skipComments true s
    else c :: s

/-- Skips what does not count. -/
def skip (spaced : Bool) (s : List Char) : List Char := if spaced then skipComments false s else s

/-- The character behind the next one, where blanks do not count. Of a comment only its sign is
skipped. -/
def peek? (spaced : Bool) (s : List Char) : Option Char :=
  if spaced then
    match s.dropWhile isWhite with
    | '#' :: s => (s.dropWhile isWhite).head?
    | s => s.head?
  else s.head?

/-- The character with a code, if there is one. -/
def charOf? (n : Nat) : Option Char :=
  if h : n.isValidChar then some (Char.ofNatAux n h) else none

/-! ## Escapes -/

/-- What stands for one character, for a set of them, or for an assertion. -/
inductive Atom where
  | literal (l : Literal)
  | set (s : SetNotation)
  | assertion (a : Assertion)
  | dot

/-- So many hexadecimal digits. -/
def readHexDigits? (spaced : Bool) : Nat → List Char → Option (List Char × List Char)
  | 0, s => some ([], s)
  | n + 1, c :: s =>
    if isHexDigit c then
      (readHexDigits? spaced n (skip spaced s)).map fun (digits, s) => (c :: digits, s)
    else none
  | _, [] => none

/-- What stands in front of a closing brace; the brace is dropped. -/
def readBraced? (spaced : Bool) : Nat → List Char → Option (List Char × List Char)
  | 0, _ => none
  | fuel + 1, s =>
    match skip spaced s with
    | [] => none
    | '\x7d' :: s => some ([], s)
    | c :: s => (readBraced? spaced fuel s).map fun (inside, s) => (c :: inside, s)

/-- A character by its code: in braces, or with a fixed number of digits. -/
def readCode? (spaced : Bool) (digits : Nat) (s : List Char) : Option (Literal × List Char) :=
  match skip spaced s with
  | '\x7b' :: s => do
    let (code, s) ← readBraced? spaced (s.length + 1) s
    if code.isEmpty || !code.all isHexDigit then none
    return (⟨← charOf? (hexValue code), false⟩, skip spaced s)
  | s => do
    let (code, s) ← readHexDigits? spaced digits s
    return (⟨← charOf? (hexValue code), digits = 2⟩, s)

/-- A property in braces: a name, or a name and a value with a sign between them. -/
def PropertyQuery.ofText (s : List Char) : PropertyQuery :=
  match splitAt? ['!', '='] s, splitAt? [':'] s, splitAt? ['='] s with
  | some (property, member), _, _ => .value property member
  | none, some (property, member), _ => .value property member
  | none, none, some (property, member) => .value property member
  | none, none, none => .one s

/-- A property: a letter, or what stands in braces. -/
def readProperty? (spaced : Bool) (s : List Char) : Option (PropertyQuery × List Char) :=
  match skip spaced s with
  | [] => none
  | '\x7b' :: s =>
    (readBraced? spaced (s.length + 1) s).map fun (inside, s) => (.ofText inside, s)
  | '\\' :: _ => none
  | c :: s => some (.one [c], skip spaced s)

/-- The classes that a letter behind a backslash stands for. -/
def classLetter? (c : Char) : Option SetNotation :=
  match c with
  | 'd' => some (.letter .digit false)
  | 'D' => some (.letter .digit true)
  | 's' => some (.letter .white false)
  | 'S' => some (.letter .white true)
  | 'w' => some (.letter .word false)
  | 'W' => some (.letter .word true)
  | _ => none

/-- The characters that a letter behind a backslash stands for. -/
def controlLetter? (c : Char) : Option Char :=
  match c with
  | 'a' => some '\x07'
  | 'f' => some '\x0c'
  | 't' => some '\t'
  | 'n' => some '\n'
  | 'r' => some '\r'
  | 'v' => some '\x0b'
  | _ => none

/-- The assertions that a sign behind a backslash stands for. -/
def assertionSign? (c : Char) : Option Assertion :=
  match c with
  | 'A' => some .textStart
  | 'z' => some .textEnd
  | 'b' => some .wordBoundary
  | 'B' => some .noWordBoundary
  | '<' => some .wordStart
  | '>' => some .wordEnd
  | _ => none

/-- The word boundaries that have a name. -/
def namedBoundary? (name : List Char) : Option Assertion :=
  match String.ofList name with
  | "start" => some .wordStart
  | "end" => some .wordEnd
  | "start-half" => some .noWordBefore
  | "end-half" => some .noWordAfter
  | _ => none

/-- A word boundary, with a name in braces or not. Braces that do not start like a name hold a count,
which is left. -/
def readBoundary? (spaced : Bool) (s : List Char) : Option (Assertion × List Char) :=
  match s with
  | '\x7b' :: inner =>
    match skip spaced inner with
    | [] => none
    | c :: _ =>
      if isAsciiAlpha c || c = '-' then do
        let (name, s) ← readBraced? spaced (inner.length + 1) inner
        return (← namedBoundary? name, s)
      else some (.wordBoundary, s)
  | _ => some (.wordBoundary, s)

/-- Reads what follows a backslash. -/
def readEscape? (spaced : Bool) : List Char → Option (Atom × List Char)
  | [] => none
  | 'x' :: s => (readCode? spaced 2 s).map fun (l, s) => (.literal l, s)
  | 'u' :: s => (readCode? spaced 4 s).map fun (l, s) => (.literal l, s)
  | 'U' :: s => (readCode? spaced 8 s).map fun (l, s) => (.literal l, s)
  | 'p' :: s => (readProperty? spaced s).map fun (q, s) => (.set (.property q false), s)
  | 'P' :: s => (readProperty? spaced s).map fun (q, s) => (.set (.property q true), s)
  | 'b' :: s => (readBoundary? spaced s).map fun (a, s) => (.assertion a, s)
  | c :: s =>
    match classLetter? c, controlLetter? c, assertionSign? c with
    | some set, _, _ => some (.set set, s)
    | _, some char, _ => some (.literal ⟨char, false⟩, s)
    | _, _, some a => some (.assertion a, s)
    | _, _, _ =>
      if c.toNat < 0x80 && !isAsciiAlnum c then some (.literal ⟨c, false⟩, s) else none

/-! ## Sets in brackets -/

/-- The class with a name. -/
def asciiClass? (name : List Char) : Option AsciiClass :=
  match String.ofList name with
  | "alnum" => some .alnum
  | "alpha" => some .alpha
  | "ascii" => some .ascii
  | "blank" => some .blank
  | "cntrl" => some .cntrl
  | "digit" => some .digit
  | "graph" => some .graph
  | "lower" => some .lower
  | "print" => some .print
  | "punct" => some .punct
  | "space" => some .space
  | "upper" => some .upper
  | "word" => some .word
  | "xdigit" => some .xdigit
  | _ => none

/-- A named class behind an opening bracket. -/
def readAsciiClass? (s : List Char) : Option (SetNotation × List Char) := do
  let s ← stripPrefix? [':'] s
  let (negated, s) := match s with
    | '^' :: s => (true, s)
    | _ => (false, s)
  let (name, s) ← splitAt? [':'] s
  let s ← stripPrefix? [']'] s
  return (.named (← asciiClass? name) negated, s)

/-- A doubled sign between two sets. -/
def readOperation? : List Char → Option (SetOperation × List Char)
  | '&' :: '&' :: s => some (.meet, s)
  | '-' :: '-' :: s => some (.minus, s)
  | '~' :: '~' :: s => some (.differ, s)
  | _ => none

/-- One character or class in brackets. -/
def readSetAtom? (spaced : Bool) : List Char → Option (Atom × List Char)
  | '\\' :: s => readEscape? spaced s
  | c :: s => some (.literal ⟨c, false⟩, s)
  | [] => none

/-- The set that one item in brackets stands for. -/
def Atom.toSet? : Atom → Option SetNotation
  | .literal l => some (.chars l l)
  | .set s => some s
  | _ => none

/-- One item in brackets, or a range between two characters. A hyphen in front of the closing bracket or
of another hyphen makes no range. -/
def readSetItem? (spaced : Bool) (s : List Char) : Option (SetNotation × List Char) := do
  let (first, s) ← readSetAtom? spaced s
  let s := skip spaced s
  match s with
  | '-' :: rest =>
    if peek? spaced rest = some ']' || peek? spaced rest = some '-' then return (← first.toSet?, s)
    match first, ← readSetAtom? spaced (skip spaced rest) with
    | .literal a, (.literal b, s) => if a.char ≤ b.char then some (.chars a b, s) else none
    | _, _ => none
  | _ => return (← first.toSet?, s)

/-- The set so far. `left` is what stands in front of the last operation, `items` what follows it, last
item first. -/
def combine (left : Option (SetOperation × SetNotation)) (items : List SetNotation) : SetNotation :=
  let right := SetNotation.ofItems items.reverse
  match left with
  | some (operation, left) => .combined operation left right
  | none => right

mutual

/-- Reads a set behind its opening bracket. Hyphens in front stand for themselves, and so does a closing
bracket that comes first. -/
def readSet? (spaced : Bool) : Nat → List Char → Option (SetNotation × List Char)
  | 0, _ => none
  | fuel + 1, s =>
    let (negated, s) := match skip spaced s with
      | '^' :: s => (true, skip spaced s)
      | s => (false, s)
    let inner := match s with
      | ']' :: s => readSetItems? spaced fuel none [.chars ⟨']', false⟩ ⟨']', false⟩] s
      | s => readHyphens? spaced fuel [] s
    inner.map fun (inner, s) => (.bracketed inner negated, s)

/-- Reads hyphens at the start of a set, and then its items. -/
def readHyphens? (spaced : Bool) : Nat → List SetNotation → List Char →
    Option (SetNotation × List Char)
  | 0, _, _ => none
  | fuel + 1, items, s =>
    match s with
    | '-' :: s => readHyphens? spaced fuel (.chars ⟨'-', false⟩ ⟨'-', false⟩ :: items) (skip spaced s)
    | s => readSetItems? spaced fuel none items s

/-- Reads the items of a set up to its closing bracket. -/
def readSetItems? (spaced : Bool) : Nat → Option (SetOperation × SetNotation) → List SetNotation →
    List Char → Option (SetNotation × List Char)
  | 0, _, _, _ => none
  | fuel + 1, left, items, s =>
    match skip spaced s with
    | [] => none
    | ']' :: s => some (combine left items, s)
    | '[' :: s =>
      match readAsciiClass? s with
      | some (set, s) => readSetItems? spaced fuel left (set :: items) s
      | none =>
        match readSet? spaced fuel s with
        | some (set, s) => readSetItems? spaced fuel left (set :: items) s
        | none => none
    | s =>
      match readOperation? s with
      | some (operation, s) => readSetItems? spaced fuel (some (operation, combine left items)) [] s
      | none =>
        match readSetItem? spaced s with
        | some (item, s) => readSetItems? spaced fuel left (item :: items) s
        | none => none

end

/-! ## Repetitions -/

/-- Digits, between which blanks may be skipped. -/
def readDigits (spaced : Bool) : Nat → List Char → List Char × List Char
  | fuel + 1, c :: s =>
    if isAsciiDigit c then
      let (digits, s) := readDigits spaced fuel (skip spaced s)
      (c :: digits, s)
    else ([], c :: s)
  | _, s => ([], s)

/-- A number with blanks around it. -/
def readNumber? (spaced : Bool) (s : List Char) : Option (Nat × List Char) :=
  let (digits, s) := readDigits spaced s.length (s.dropWhile isWhite)
  let n := digits.foldl (fun n c => n * 10 + (c.toNat - '0'.toNat)) 0
  if digits.isEmpty || Nat.pow 2 32 ≤ n then none else some (n, skip spaced (s.dropWhile isWhite))

/-- Reads how often something is repeated, behind the opening brace. -/
def readCount? (spaced : Bool) (s : List Char) : Option (Nat × Option Nat × List Char) := do
  let (least, s) ← readNumber? spaced (skip spaced s)
  let closed (most : Option Nat) (s : List Char) : Option (Nat × Option Nat × List Char) :=
    match s with
    | '\x7d' :: s => if most.all (least ≤ ·) then some (least, most, skip spaced s) else none
    | _ => none
  match s with
  | ',' :: s =>
    match skip spaced s with
    | '\x7d' :: s => closed none ('\x7d' :: s)
    | s => do
      let (most, s) ← readNumber? spaced s
      closed (some most) s
  | s => closed (some least) s

/-- Reads the sign of a repetition: how often at least, how often at most, and whether as often as
possible. -/
def readRepetition? (spaced : Bool) : List Char → Option (Nat × Option Nat × Bool × List Char)
  | '*' :: s => some (0, none, lazy s)
  | '+' :: s => some (1, none, lazy s)
  | '?' :: s => some (0, some 1, lazy s)
  | '\x7b' :: s => (readCount? spaced s).map fun (least, most, s) => (least, most, lazy s)
  | _ => none
where
  /-- A question mark asks for as few as possible. -/
  lazy : List Char → Bool × List Char
    | '?' :: s => (false, s)
    | s => (true, s)

/-! ## Groups -/

/-- The letters of any script. -/
def letters : Thunk CodeRanges := .mk fun _ => (withProperty? "alphabetic").getD .none

/-- The numbers of any script. -/
def numbers : Thunk CodeRanges := .mk fun _ => categories "nd nl no"

/-- Whether a character can start the name of a group. -/
def isNameStart (c : Char) : Bool :=
  c = '_' || if c.toNat < 0x80 then isAsciiAlpha c else letters.get.contains c.toNat

/-- Whether a character can follow in the name of a group. -/
def isNamePart (c : Char) : Bool :=
  isNameStart c || ['.', '[', ']'].contains c ||
    if c.toNat < 0x80 then isAsciiDigit c else numbers.get.contains c.toNat

/-- The name of a group, up to the closing angle bracket. -/
def readGroupName? (s : List Char) : Option (List Char × List Char) := do
  let (name, rest) ← splitAt? ['>'] s
  match name with
  | c :: cs => if isNameStart c && cs.all isNamePart then some (name, rest) else none
  | [] => none

/-- The flag with a letter. -/
def flagLetter? (c : Char) : Option Flag :=
  match c with
  | 'i' => some .anyCase
  | 'm' => some .multiLine
  | 's' => some .dotAll
  | 'U' => some .swapGreed
  | 'u' => some .unicode
  | 'R' => some .anyLineEnd
  | 'x' => some .spaced
  | _ => none

/-- Reads flags up to a colon or a closing parenthesis, which is left. A hyphen, which comes once and not
last, switches off what follows it. No flag comes twice. -/
def readFlags? (on : Bool) (settings : FlagSettings) : List Char → Option (FlagSettings × List Char)
  | [] => none
  | '-' :: s =>
    match s.head? with
    | some ':' | some ')' | none => none
    | _ => if on then readFlags? false settings s else none
  | c :: s =>
    if c = ':' || c = ')' then some (settings, c :: s)
    else
      match flagLetter? c with
      | some flag =>
        if settings.any (·.1 = flag) then none else readFlags? on (settings ++ [(flag, on)]) s
      | none => none

/-- What an opening parenthesis starts: a group, or flags for what follows. -/
inductive Opening where
  | group (kind : GroupKind)
  | flags (settings : FlagSettings)

/-- Reads what follows an opening parenthesis. -/
def readOpening? (spaced : Bool) (s : List Char) : Option (Opening × List Char) :=
  match skip spaced s with
  | '?' :: 'P' :: '<' :: s | '?' :: '<' :: s =>
    (readGroupName? s).map fun (name, s) => (.group (.captured (some name)), s)
  | '?' :: s =>
    match readFlags? true [] s with
    | some (settings, ':' :: s) => some (.group (.flagged settings), s)
    | some (settings, ')' :: s) => if settings.isEmpty then none else some (.flags settings, s)
    | _ => none
  | s => some (.group (.captured none), s)

/-- Whether blanks do not count under flags, or else as before. -/
def FlagSettings.spaced (settings : FlagSettings) (before : Bool) : Bool :=
  (settings.lookup .spaced).getD before

/-! ## Expressions -/

/-- Whether a part of a sequence can be repeated. Flags cannot. -/
def Notation.isRepeatable : Notation → Bool
  | .flags _ => false
  | _ => true

/-- Reads a set, an escape or a character. -/
def readAtom? (spaced : Bool) : List Char → Option (Atom × List Char)
  | '[' :: s => (readSet? spaced (3 * s.length + 3) s).map fun (set, s) => (.set set, s)
  | '\\' :: s => readEscape? spaced s
  | '.' :: s => some (.dot, s)
  | '^' :: s => some (.assertion .lineStart, s)
  | '$' :: s => some (.assertion .lineEnd, s)
  | c :: s => some (.literal ⟨c, false⟩, s)
  | [] => none

def Notation.ofAtom : Atom → Notation
  | .literal l => .literal l
  | .set s => .set s
  | .assertion a => .assertion a
  | .dot => .dot

/-- Reads a choice up to a closing parenthesis, which is left, or up to the end. `choices` are those in
front, and `parts` is the sequence so far, both with the last one first. -/
def readChoice? : Nat → Bool → List Notation → List Notation → List Char →
    Option (Notation × List Char)
  | 0, _, _, _, _ => none
  | fuel + 1, spaced, choices, parts, s =>
    let here := Notation.ofParts parts.reverse
    match skip spaced s with
    | [] => some (.ofChoices (here :: choices).reverse, [])
    | ')' :: s => some (.ofChoices (here :: choices).reverse, ')' :: s)
    | '|' :: s => readChoice? fuel spaced (here :: choices) [] s
    | '(' :: s =>
      match readOpening? spaced s with
      | some (.flags settings, s) =>
        readChoice? fuel (settings.spaced spaced) choices (.flags settings :: parts) s
      | some (.group kind, s) =>
        let inside := match kind with
          | .flagged settings => settings.spaced spaced
          | .captured _ => spaced
        match readChoice? fuel inside [] [] s with
        | some (inner, ')' :: s) => readChoice? fuel spaced choices (.group kind inner :: parts) s
        | _ => none
      | none => none
    | s =>
      if s.head?.any ['*', '+', '?', '\x7b'].contains then
        match parts, readRepetition? spaced s with
        | part :: parts, some (least, most, greedy, s) =>
          if part.isRepeatable then
            readChoice? fuel spaced choices (.repeated part least most greedy :: parts) s
          else none
        | _, _ => none
      else
        match readAtom? spaced s with
        | some (a, s) => readChoice? fuel spaced choices (.ofAtom a :: parts) s
        | none => none

/-- Reads an expression; none if the text is not one. -/
def Notation.parse? (text : String) : Option Notation :=
  match readChoice? (2 * text.length + 2) false [] [] text.toList with
  | some (n, []) => if n.isWellFormed then some n else none
  | _ => none

end DeckPress.Regex
