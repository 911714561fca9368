import DeckPress.Code.Highlight
import DeckPress.Component.Brace

/-!
# Code samples in rendered HTML

Rendered markdown is a sequence of plain HTML and code samples. A sample is a block, perhaps with a
language, or stands inside a line. Samples are coloured and protected from the template compiler; what
stands between them is left as it is.
-/

namespace DeckPress.Component

open Text

/-- A piece of rendered HTML. -/
inductive Region where
  | html (text : List Char)
  | block (language : Option (List Char)) (code : List Char)
  | inline (code : List Char)
  deriving DecidableEq, Repr

/-- The language of a block, from behind `<pre><code` on, and what follows the tag. -/
def readLanguage? (s : List Char) : Option (Option (List Char) × List Char) :=
  match s with
  | '>' :: rest => some (none, rest)
  | _ => do
    let rest ← stripPrefix? " class=\"language-".toList s
    let (language, rest) ← splitAt? ['"'] rest
    match rest with
    | '>' :: rest => if language.isEmpty then none else some (some language, rest)
    | _ => none

/-- The code block at the start of a text, and what follows it. -/
def readBlock? (s : List Char) : Option (Region × List Char) := do
  let rest ← stripPrefix? "<pre><code".toList s
  let (language, rest) ← readLanguage? rest
  let (code, rest) ← splitAt? "</code></pre>".toList rest
  return (.block language code, rest)

/-- The code at the start of a text, and what follows it. -/
def readInline? (s : List Char) : Option (Region × List Char) := do
  let rest ← stripPrefix? "<code>".toList s
  let (code, rest) ← splitAt? "</code>".toList rest
  return (.inline code, rest)

/-- The sample at the start of a text, and what follows it. -/
def readRegion? (s : List Char) : Option (Region × List Char) :=
  match readBlock? s with
  | some found => some found
  | none => readInline? s

/-- Puts a character in front of the first piece. -/
def consHtml (c : Char) : List Region → List Region
  | .html text :: rest => .html (c :: text) :: rest
  | rest => .html [c] :: rest

/-- The pieces of rendered HTML. -/
def regionsOf (html : List Char) : List Region := go html.length html
where
  /-- Every step uses up a character, so `fuel` is the length of the text. -/
  go : Nat → List Char → List Region
    | _, [] => []
    | 0, s => [.html s]
    | fuel + 1, c :: cs =>
      match readRegion? (c :: cs) with
      | some (region, rest) => region :: go fuel rest
      | none => consHtml c (go fuel cs)

/-- The final form of the code of a block: coloured if that is wanted and the language is given. -/
def blockCode (coloured : Bool) (language : Option (List Char)) (code : List Char) : List Char :=
  let code := unescapeHtml code
  match language with
  | some name =>
    if coloured then Code.highlight code (String.ofList name) else escapeHtml code
  | none => escapeHtml code

/-- The final form of a piece. -/
def Region.render (coloured : Bool) : Region → List Char
  | .html text => text
  | .inline code => "<code v-pre>".toList ++ Brace.protect code ++ "</code>".toList
  | .block language code =>
    let body := Brace.protect (blockCode coloured language code)
    match language with
    | some name =>
      "<pre class=\"language-".toList ++ name ++ "\" v-pre><code class=\"language-".toList ++ name ++
        "\">".toList ++ body ++ "</code></pre>".toList
    | none => "<pre v-pre><code>".toList ++ body ++ "</code></pre>".toList

/-- Rendered HTML with its samples in final form. -/
def renderCode (coloured : Bool) (html : List Char) : List Char :=
  (regionsOf html).flatMap (·.render coloured)

end DeckPress.Component
