import DeckPress.Number.Natural
import DeckPress.Text.Case
import DeckPress.Url.Host

/-!
# Reading addresses

Of an address only the path matters: it names a remote file, or what a server is asked for. An address is
read as browsers do it. Blanks around it and line ends in it do not count; the schemes of the web take
backslashes for slashes; dots in the path are resolved, also when they are percent encoded.
-/

namespace DeckPress.Url

open Text

/-- The schemes whose addresses have a host and a path. -/
def specialSchemes : List String := ["http", "https", "ws", "wss", "ftp"]

/-- Drops what does not count in an address. -/
def clean (s : List Char) : List Char :=
  let blank (c : Char) : Bool := c ≤ ' '
  (dropEndWhile blank (s.dropWhile blank)).filter fun c =>
    !(['\t', '\n', '\r'].contains c)

/-- The scheme of an address in lower case, and what follows its colon. -/
def splitScheme? (s : List Char) : Option (String × List Char) := do
  let (scheme, rest) ← splitAt? [':'] s
  let valid := scheme.head?.any isAsciiAlpha &&
    scheme.all fun c => isAsciiAlnum c || ['+', '-', '.'].contains c
  if valid then some (String.ofList (scheme.map asciiLower), rest) else none

def isSlash (special : Bool) (c : Char) : Bool := c = '/' || (special && c = '\\')

/-- Whether a character ends the host. -/
def endsAuthority (special : Bool) (c : Char) : Bool := isSlash special c || c = '?' || c = '#'

/-- Whether a port is valid. -/
def isPort (s : List Char) : Bool :=
  s.all isAsciiDigit && (s.isEmpty || (readNatBelow? (Nat.pow 2 16) s).isSome)

/-- Whether the part between the slashes and the path is valid: a host, with a user in front of it and a
port behind it or not. -/
def isAuthority (special : Bool) (s : List Char) : Bool :=
  let hostAndPort := match splitAtLast? ['@'] s with
    | some (_, h) => h
    | none => s
  match hostAndPort with
  | [] => isHost special [] && !s.contains '@'
  | '[' :: rest =>
    match splitAt? [']'] rest with
    | some (address, after) =>
      isHost special ('[' :: address ++ [']']) &&
        match after with
        | [] => true
        | ':' :: port => isPort port
        | _ => false
    | none => false
  | _ =>
    match splitAt? [':'] hostAndPort with
    | some (host, port) => (special || !host.isEmpty) && isHost special host && isPort port
    | none => isHost special hostAndPort

/-- One dot, written plainly or encoded. -/
def isDot (segment : List Char) : Bool :=
  [".", "%2e"].contains (String.ofList (segment.map asciiLower))

/-- Two dots, written plainly or encoded. -/
def isTwoDots (segment : List Char) : Bool :=
  ["..", ".%2e", "%2e.", "%2e%2e"].contains (String.ofList (segment.map asciiLower))

/-- Resolves the dots among the segments of a path. `before` are the segments so far, last one first. -/
def resolveDots (before : List (List Char)) : List (List Char) → List (List Char)
  | [] => before.reverse
  | [last] =>
    if isTwoDots last then (([] : List Char) :: before.drop 1).reverse
    else if isDot last then (([] : List Char) :: before).reverse
    else (last :: before).reverse
  | s :: rest =>
    if isTwoDots s then resolveDots (before.drop 1) rest
    else if isDot s then resolveDots before rest
    else resolveDots (s :: before) rest

/-- The path at the start of a text, from the slash on that starts it. -/
def pathText (special : Bool) (s : List Char) : List Char :=
  let path := s.takeWhile fun c => c ≠ '?' && c ≠ '#'
  let path := match path with
    | c :: rest => if isSlash special c then rest else path
    | [] => []
  let segments := (splitOn (isSlash special) path).map (percentEncode isPathEncoded)
  '/' :: joinWith ['/'] (resolveDots [] segments)

/-- The path behind a host, which is checked. -/
def pathBehindHost? (special : Bool) (s : List Char) : Option (List Char) :=
  let authority := s.takeWhile (!endsAuthority special ·)
  let rest := s.dropWhile (!endsAuthority special ·)
  if !isAuthority special authority then none
  else if !special && rest.head? ≠ some '/' then some []
  else some (pathText special rest)

/-- Whether a text names a drive, which stands where a file address has its host otherwise. -/
def isDrive : List Char → Bool
  | [letter, mark] => isAsciiAlpha letter && [':', '|'].contains mark
  | _ => false

/-- The path of a file address. -/
def filePath? (s : List Char) : Option (List Char) :=
  match s with
  | a :: b :: rest =>
    if isSlash true a && isSlash true b then
      let host := rest.takeWhile (!endsAuthority true ·)
      if isDrive host then some (pathText true rest)
      else if host.isEmpty || isHost true host then
        some (pathText true (rest.dropWhile (!endsAuthority true ·)))
      else none
    else some (pathText true s)
  | _ => some (pathText true s)

/-- The path of an address behind its scheme. -/
def pathBehindScheme? (scheme : String) (s : List Char) : Option (List Char) :=
  if specialSchemes.contains scheme then pathBehindHost? true (s.dropWhile (isSlash true))
  else if scheme = "file" then filePath? s
  else
    match s with
    | '/' :: '/' :: rest => pathBehindHost? false rest
    | '/' :: _ => some (pathText false s)
    | _ => some (percentEncode isControl (s.takeWhile fun c => c ≠ '?' && c ≠ '#'))

/-- The path of an address; none if the text is no address. -/
def path? (text : String) : Option String := do
  let (scheme, rest) ← splitScheme? (clean text.toList)
  return String.ofList (← pathBehindScheme? scheme rest)

/-- The path that a reference leads to from the top of a site on the web. -/
def pathFromTop? (reference : String) : Option String :=
  let s := clean reference.toList
  let relative (s : List Char) : Option (List Char) :=
    match s with
    | a :: b :: rest =>
      if isSlash true a && isSlash true b then pathBehindHost? true (rest.dropWhile (isSlash true))
      else some (pathText true s)
    | _ => some (pathText true s)
  let path := match splitScheme? s with
    | some ("http", rest) =>
      if 2 ≤ (rest.takeWhile (isSlash true)).length then pathBehindScheme? "http" rest else relative rest
    | some (scheme, rest) => pathBehindScheme? scheme rest
    | none => relative s
  path.map String.ofList

end DeckPress.Url
