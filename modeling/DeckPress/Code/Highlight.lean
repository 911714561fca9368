import DeckPress.Code.Language
import DeckPress.Text.Html

/-!
# Coloured code samples

Comments, strings, keywords and numbers of a sample are put into spans; everything is escaped for HTML.
At each place the kinds are tried in that order. A sample in an unknown language is only escaped.
-/

namespace DeckPress.Code

open Text

/-- The tokens that are coloured. -/
inductive TokenKind where
  | comment
  | string
  | keyword
  | number
  deriving DecidableEq, Repr

def TokenKind.name : TokenKind → String
  | .comment => "comment"
  | .string => "string"
  | .keyword => "keyword"
  | .number => "number"

/-- The length of a comment at the start of a text. -/
def Language.commentLength? (l : Language) (s : List Char) : Option Nat :=
  if l.lineComments.any fun mark => startsWith mark.toList s then
    some (s.takeWhile (· ≠ '\n')).length
  else
    l.blockComments.findSome? fun (first, last) => do
      let rest ← stripPrefix? first.toList s
      let (inner, _) ← splitAt? last.toList rest
      return first.length + inner.length + last.length

/-- The length of a quoted text behind its opening quote, closing quote included. A backslash takes the
next character with it, which must not end the line. -/
def quotedLength? (quote : Char) (multiline : Bool) : List Char → Option Nat
  | [] => none
  | [c] => if c = quote then some 1 else none
  | c :: d :: rest =>
    if c = quote then some 1
    else if c = '\\' then if d = '\n' then none else (quotedLength? quote multiline rest).map (· + 2)
    else if c = '\n' && !multiline then none
    else (quotedLength? quote multiline (d :: rest)).map (· + 1)

/-- The length of a quoted text at the start of a text. -/
def Language.stringLength? (l : Language) : List Char → Option Nat
  | c :: rest =>
    if c = '"' || c = '\'' then (quotedLength? c false rest).map (· + 1)
    else if c = '`' && l.backtickStrings then (quotedLength? c true rest).map (· + 1)
    else none
  | [] => none

/-- The length of a keyword at the start of a text. It must be a word of its own. -/
def Language.keywordLength? (l : Language) (before : Option Char) (s : List Char) : Option Nat :=
  let word := s.takeWhile isWord
  if !before.any isWord && l.keywords.contains (String.ofList word) then some word.length else none

/-- The length of a number at the start of a text: digits, and digits behind a point if a word ends with
them. -/
def numberLength? (before : Option Char) (s : List Char) : Option Nat :=
  let whole := s.takeWhile isDigit
  if before.any isWord || whole.isEmpty then none
  else
    let ends (rest : List Char) : Bool := !rest.head?.any isWord
    let rest := s.dropWhile isDigit
    let long? : Option Nat := match rest with
      | '.' :: more =>
        let fraction := more.takeWhile isDigit
        if !fraction.isEmpty && ends (more.dropWhile isDigit) then
          some (whole.length + 1 + fraction.length)
        else none
      | _ => none
    match long? with
    | some n => some n
    | none => if ends rest then some whole.length else none

/-- The token at the start of a text, and its length. -/
def Language.token? (l : Language) (before : Option Char) (s : List Char) : Option (TokenKind × Nat) :=
  match l.commentLength? s with
  | some n => some (.comment, n)
  | none =>
    match l.stringLength? s with
    | some n => some (.string, n)
    | none =>
      match l.keywordLength? before s with
      | some n => some (.keyword, n)
      | none => (numberLength? before s).map fun n => (.number, n)

/-- A token inside its span. -/
def span (kind : TokenKind) (text : List Char) : List Char :=
  "<span class=\"token ".toList ++ kind.name.toList ++ "\">".toList ++ escapeHtml text ++
    "</span>".toList

/-- Colours a text; `before` is the character in front of it. -/
def highlightFrom (l : Language) (before : Option Char) : List Char → List Char
  | [] => []
  | c :: cs =>
    match l.token? before (c :: cs) with
    | some (kind, n) =>
      -- no token is empty
      let text := c :: cs.take (n - 1)
      span kind text ++ highlightFrom l text.getLast? (cs.drop (n - 1))
    | none => escapeHtmlChar c ++ highlightFrom l (some c) cs
termination_by s => s.length
decreasing_by all_goals simp only [List.length_cons, List.length_drop]; omega

/-- A sample in the language that a fence names, as HTML. -/
def highlight (code : List Char) (language : String) : List Char :=
  match Language.find? language with
  | some l => highlightFrom l none code
  | none => escapeHtml code

end DeckPress.Code
