import DeckPress.Markdown.Inline

/-!
# Addresses in text

Text that looks like a web or mail address becomes a link. An address ends at a blank; signs that close a
sentence do not belong to it, nor does a closing parenthesis without an opening one. Inside an open
bracket nothing is linked.
-/

namespace DeckPress.Markdown

open Text

/-- A character that host names may contain besides dots, hyphens and underscores. -/
def isHostChar (c : Char) : Bool := !isWhite c && !isPunctuation c

/-- The length of the host name at the start of a text. Underscores may not stand in its last two parts
unless it has more than ten. Unless `short` holds, it must have a dot. The counts so far are the
characters, the dots, and the underscores of the part before last and of the last one. -/
def hostLength? (short : Bool) (i dots under₁ under₂ : Nat) : List Char → Option Nat
  | [] =>
    if (0 < under₁ || 0 < under₂) && dots ≤ 10 then none
    else if short || 0 < dots then some i
    else none
  | c :: rest =>
    if c = '_' then hostLength? short (i + 1) dots under₁ (under₂ + 1) rest
    else if c = '.' then hostLength? short (i + 1) (dots + 1) under₂ 0 rest
    else if isHostChar c || c = '-' then hostLength? short (i + 1) dots under₁ under₂ rest
    else if under₁ = 0 && under₂ = 0 && (short || 0 < dots) then some i
    else none

/-- Signs that do not end an address. -/
def isTrailing (c : Char) : Bool := "?!.,:*_~'\"[]".toList.contains c

/-- An address without what only seems to belong to its end; the text is reversed. -/
def trimAddress : Nat → List Char → List Char
  | 0, s => s
  | _, [] => []
  | fuel + 1, c :: s =>
    if isTrailing c then trimAddress fuel s
    else if c = ';' then
      -- a character reference at the end goes as a whole
      let name := s.takeWhile isAsciiAlpha
      match s.dropWhile isAsciiAlpha with
      | '&' :: before => if name.isEmpty then trimAddress fuel s else trimAddress fuel before
      | _ => trimAddress fuel s
    else if c = ')' then
      let all := c :: s
      if all.count ')' ≤ all.count '(' then all else trimAddress fuel s
    else c :: s

/-- The address at the start of a text of which at most `length` characters belong to it. -/
def addressOf (length : Nat) (s : List Char) : List Char :=
  let s := (s.take length).takeWhile (· ≠ '<')
  (trimAddress s.length s.reverse).reverse

/-- An address found in a text: what stands before it, the link, and what follows. -/
structure Found where
  before : List Char
  link : Inline
  after : List Char

/-- A link that shows its own address, with something in front of the url. -/
def selfLink (start address : List Char) : Inline := .link ⟨start ++ address, []⟩ [.text address]

/-- The end of an address: the first blank. -/
def toBlank (s : List Char) : Nat := (s.takeWhile (!isSpace ·)).length

/-- A web address with a scheme, from its colon on. `before` is the text before, last character
first. -/
def findUrl? (before rest : List Char) : Option Found :=
  match rest with
  | ':' :: '/' :: '/' :: host@(_ :: _) =>
    let scheme := (before.takeWhile isAsciiAlpha).reverse
    if ["http".toList, "https".toList, "ftp".toList].contains scheme then
      (hostLength? true 0 0 0 0 host).map fun n =>
        let n := n + toBlank (rest.drop n)
        let address := addressOf n rest
        ⟨(before.drop scheme.length).reverse, selfLink [] (scheme ++ address),
          rest.drop address.length⟩
    else none
  | _ => none

/-- Whether an address without scheme may start behind a character. -/
def mayPrecedeHost (c : Char) : Bool := isSpace c || ['*', '_', '~', '(', '['].contains c

/-- A web address that starts with `www.`. -/
def findHost? (before rest : List Char) : Option Found :=
  if before.head?.all mayPrecedeHost && startsWith "www.".toList rest then
    (hostLength? false 0 0 0 0 rest).map fun n =>
      let n := n + toBlank (rest.drop n)
      let address := addressOf n rest
      ⟨before.reverse, selfLink "http://".toList address, rest.drop address.length⟩
  else none

def isMailUserChar (c : Char) : Bool := isAsciiAlnum c || ['+', '.', '-', '_'].contains c

/-- The part of a mail address before its at sign, at the end of a text given last character first. A
scheme for mail or chat may stand in front of it; the two flags say whether there was one, and whether
it was the one for chat. -/
def mailUser (scheme chat : Bool) : Nat → List Char → List Char × Bool × Bool
  | 0, _ => ([], scheme, chat)
  | _, [] => ([], scheme, chat)
  | fuel + 1, c :: before =>
    if isMailUserChar c then
      let (user, flags) := mailUser scheme chat fuel before
      (c :: user, flags)
    else if c = ':' then
      let word := (before.takeWhile isAsciiAlpha).reverse
      if word = "mailto".toList then
        let (user, flags) := mailUser true chat fuel before
        (c :: user, flags)
      else if word = "xmpp".toList then
        let (user, flags) := mailUser true true fuel before
        (c :: user, flags)
      else ([], scheme, chat)
    else ([], scheme, chat)

/-- The length of the host behind the at sign of a mail address, and its number of dots; none if a second
at sign follows. -/
def mailHost? (chat : Bool) (i dots : Nat) : List Char → Option (Nat × Nat)
  | [] => some (i, dots)
  | c :: rest =>
    if isAsciiAlnum c then mailHost? chat (i + 1) dots rest
    else if c = '@' then none
    else if c = '.' && rest.head?.any isAsciiAlnum then mailHost? chat (i + 1) (dots + 1) rest
    else if (c = '/' && chat) || c = '-' || c = '_' then mailHost? chat (i + 1) dots rest
    else some (i, dots)

/-- A mail address, from its at sign on. -/
def findMail? (before rest : List Char) : Option Found :=
  let (user, scheme, chat) := mailUser false false (before.length + 1) before
  if user.isEmpty then none
  else
    match mailHost? chat 0 0 (rest.drop 1) with
    | none => none
    | some (n, dots) =>
      let last := (rest.take (n + 1)).getLast?
      if n = 0 || dots = 0 || !last.any fun c => isAsciiAlpha c || c = '.' then none
      else
        let host := addressOf (n + 1) rest
        some ⟨(before.drop user.length).reverse,
          selfLink (if scheme then [] else "mailto:".toList) (user.reverse ++ host),
          rest.drop host.length⟩

/-- The first address in a text. `before` is the text passed so far, last character first, and `depth` the
number of open brackets. -/
def findAddress? (before : List Char) (depth : Int) : List Char → Option Found
  | [] => none
  | c :: rest =>
    let depth := if c = '[' then depth + 1 else if c = ']' then depth - 1 else depth
    let found := if 0 < depth then none
      else if c = ':' then findUrl? before (c :: rest)
      else if c = 'w' then findHost? before (c :: rest)
      else if c = '@' then findMail? before (c :: rest)
      else none
    match found with
    | some f => some f
    | none => findAddress? (c :: before) depth rest

/-- A text with its addresses as links. -/
def linkAddresses (s : List Char) : List Inline := go s.length s
where
  /-- Every address uses up characters, so `fuel` is the length of the text. -/
  go : Nat → List Char → List Inline
    | 0, s => [.text s]
    | fuel + 1, s =>
      match findAddress? [] 0 s with
      | none => [.text s]
      | some f => .text f.before :: f.link :: (if f.after.isEmpty then [] else go fuel f.after)

/-- Puts a node in front of others; neighbouring texts become one. -/
def consJoined : Inline → List Inline → List Inline
  | .text a, .text b :: rest => .text (a ++ b) :: rest
  | i, rest => i :: rest

mutual

/-- A node in whose content no two texts are neighbours. -/
def Inline.joined : Inline → Inline
  | .emphasis content => .emphasis (joinTexts content)
  | .strong content => .strong (joinTexts content)
  | .strikethrough content => .strikethrough (joinTexts content)
  | i => i

/-- Joins neighbouring texts, but not inside links and images. -/
def joinTexts : List Inline → List Inline
  | [] => []
  | i :: rest => consJoined i.joined (joinTexts rest)

end

mutual

/-- A node with the addresses in its texts as links, but not inside links and images. -/
def Inline.linked : Inline → List Inline
  | .text s => linkAddresses s
  | .emphasis content => [.emphasis (linkTexts content)]
  | .strong content => [.strong (linkTexts content)]
  | .strikethrough content => [.strikethrough (linkTexts content)]
  | i => [i]

def linkTexts : List Inline → List Inline
  | [] => []
  | i :: rest => i.linked ++ linkTexts rest

end

end DeckPress.Markdown
