import DeckPress.Markdown.Autolink
import DeckPress.Markdown.Block
import DeckPress.Text.Html

/-!
# Markdown as HTML

Blocks start on a line of their own. Paragraphs of tight lists have no element of their own. If raw HTML is
not allowed, it is replaced by a comment, and urls that could run code are left out.
-/

namespace DeckPress.Markdown

open Text

/-- What may be written. -/
structure HtmlOptions where
  /-- Whether raw HTML and all urls are written as they are. -/
  allowHtml : Bool
  /-- Whether addresses in text become links. -/
  linkAddresses : Bool
  deriving Repr

/-- The state of writing. -/
structure Page where
  /-- The output so far, last character first. -/
  output : List Char := []
  /-- The bytes that references may still bring in. -/
  allowance : Nat

namespace Page

def put (p : Page) (s : List Char) : Page := { p with output := s.reverse ++ p.output }

def puts (p : Page) (s : String) : Page := p.put s.toList

/-- Starts a new line unless there is one. -/
def freshLine (p : Page) : Page :=
  match p.output with
  | [] => p
  | c :: _ => if c = '\n' then p else p.put ['\n']

end Page

/-- What stands in place of HTML that is not allowed. -/
def omittedHtml : String := "<!-- raw HTML omitted -->"

/-- Urls that could run code or show foreign content; pictures as data are none of them. -/
def isDangerous (url : List Char) : Bool :=
  let lower := url.map asciiLower
  let starts (s : String) : Bool := startsWith s.toList lower
  if ["data:image/png", "data:image/gif", "data:image/jpeg", "data:image/webp"].any starts then false
  else ["javascript:", "vbscript:", "file:", "data:"].any starts

/-- The characters of a url that are written as they are. -/
def isUrlChar (c : Char) : Bool := isAsciiAlnum c || "-_.+!*(),%#@?=;:/$~".toList.contains c

/-- A byte as it stands in a url. -/
def percentByte (b : UInt8) : List Char :=
  let digit (n : Nat) : Char := if n < 10 then Char.ofNat (n + 48) else Char.ofNat (n + 55)
  ['%', digit (b.toNat / 16), digit (b.toNat % 16)]

/-- A url inside an attribute. -/
def escapeUrl (s : List Char) : List Char :=
  s.flatMap fun c =>
    if isUrlChar c then [c]
    else if c = '&' then "&amp;".toList
    else if c = '\'' then "&#x27;".toList
    else (String.ofList [c]).toUTF8.toList.flatMap percentByte

/-- A url as the options allow it. -/
def shownUrl (o : HtmlOptions) (url : List Char) : List Char :=
  if o.allowHtml || !isDangerous url then escapeUrl url else []

mutual

/-- Inline content as the text of an attribute. -/
def plainInline : Inline → List Char
  | .text s | .code s | .html s => escapeHtml s
  | .softBreak | .lineBreak => [' ']
  | .emphasis content | .strong content | .strikethrough content => plainInlines content
  | .link _ content | .image _ content => plainInlines content

def plainInlines : List Inline → List Char
  | [] => []
  | i :: rest => plainInline i ++ plainInlines rest

end

/-- The title of a link or an image. -/
def titleAttribute (title : List Char) : List Char :=
  if title.isEmpty then [] else "\" title=\"".toList ++ escapeHtml title

mutual

/-- Inline content as HTML. -/
def inlineHtml (o : HtmlOptions) : Inline → List Char
  | .text s => escapeHtml s
  | .softBreak => ['\n']
  | .lineBreak => "<br />\n".toList
  | .code s => "<code>".toList ++ escapeHtml s ++ "</code>".toList
  | .html s => if o.allowHtml then s else omittedHtml.toList
  | .emphasis content => "<em>".toList ++ inlinesHtml o content ++ "</em>".toList
  | .strong content => "<strong>".toList ++ strongHtml o content ++ "</strong>".toList
  | .strikethrough content => "<del>".toList ++ inlinesHtml o content ++ "</del>".toList
  | .link target content =>
    "<a href=\"".toList ++ shownUrl o target.url ++ titleAttribute target.title ++ "\">".toList ++
      inlinesHtml o content ++ "</a>".toList
  | .image target content =>
    "<img src=\"".toList ++ shownUrl o target.url ++ "\" alt=\"".toList ++ plainInlines content ++
      titleAttribute target.title ++ "\" />".toList

def inlinesHtml (o : HtmlOptions) : List Inline → List Char
  | [] => []
  | i :: rest => inlineHtml o i ++ inlinesHtml o rest

/-- Strong content, in which what is strong again needs no element of its own. -/
def strongHtml (o : HtmlOptions) : List Inline → List Char
  | [] => []
  | .strong content :: rest => strongHtml o content ++ strongHtml o rest
  | i :: rest => inlineHtml o i ++ strongHtml o rest

end

/-- The inline content of a text, texts joined. -/
def contentOf (ds : Definitions) (p : Page) (text : List Char) : List Inline × Page :=
  let (content, allowance) := readInlines ds p.allowance text
  (joinTexts content, { p with allowance })

/-- Inline content as the options want it. -/
def finishContent (o : HtmlOptions) (content : List Inline) : List Char :=
  inlinesHtml o (if o.linkAddresses then linkTexts content else content)

/-- The mark of a task: a box in brackets with a blank or the end behind it. Gives whether the box is
ticked, and what follows. -/
def readTask? (s : List Char) : Option (Bool × List Char) :=
  match skipWideSpace s with
  | '[' :: c :: ']' :: rest =>
    if c = ' ' || c = 'x' || c = 'X' then
      match rest with
      | [] => some (c ≠ ' ', [])
      | d :: rest => if isWideSpace d then some (c ≠ ' ', rest) else none
    else none
  | _ => none

/-- The mark of a task at the start of an item, and the content without it. -/
def takeTask? (content : List Inline) : Option (Bool × List Inline) :=
  match content with
  | .text s :: rest => (readTask? s).map fun (ticked, s) => (ticked, .text s :: rest)
  | _ => none

/-- The start of an item. -/
def itemStartHtml (task : Option Bool) : String :=
  match task with
  | none => "<li>"
  | some ticked =>
    "<li><input type=\"checkbox\" " ++ (if ticked then "checked=\"\" " else "") ++ "disabled=\"\" /> "

def alignmentAttribute : Alignment → String
  | .none => ""
  | .left => " align=\"left\""
  | .center => " align=\"center\""
  | .right => " align=\"right\""

/-- A row of a table. -/
def rowHtml (o : HtmlOptions) (ds : Definitions) (element : String) (alignments : List Alignment)
    (p : Page) (cells : List (List Char)) : Page :=
  let p := p.freshLine.puts "<tr>"
  let p := (cells.zip alignments).foldl (fun p (cell, a) =>
    let (content, p) := contentOf ds p cell
    ((p.freshLine.puts ("<" ++ element ++ alignmentAttribute a ++ ">")).put
      (finishContent o content)).puts ("</" ++ element ++ ">")) p
  p.freshLine.puts "</tr>"

def tableHtml (o : HtmlOptions) (ds : Definitions) (p : Page) (t : TableText) : Page :=
  let p := p.freshLine.puts "<table>\n"
  let p := rowHtml o ds "th" t.alignments (p.freshLine.puts "<thead>\n") t.head
  let p := p.freshLine.puts "</thead>"
  let p :=
    if t.body.isEmpty then p
    else
      let p := t.body.foldl (rowHtml o ds "td" t.alignments) (p.freshLine.puts "<tbody>\n")
      p.freshLine.puts "</tbody>\n"
  p.freshLine.puts "</table>\n"

/-- The element of a code sample; the first word of the info is its language. -/
def codeHtml (p : Page) (info text : List Char) : Page :=
  let language := info.takeWhile (!isSpace ·)
  let start := if info.isEmpty then "<pre><code>".toList
    else "<pre><code class=\"language-".toList ++ escapeHtml language ++ "\">".toList
  ((p.freshLine.put start).put (escapeHtml text)).puts "</code></pre>\n"

/-- A paragraph; one in a tight list has no element. -/
def paragraphHtml (tight : Bool) (p : Page) (content : List Char) : Page :=
  if tight then p.put content
  else ((p.freshLine.puts "<p>").put content).puts "</p>\n"

mutual

/-- Blocks as HTML. `tight` holds for the blocks of an item of a tight list. -/
def blockHtml (o : HtmlOptions) (ds : Definitions) (tight : Bool) (p : Page) : Block → Page
  | .paragraph _ text =>
    let (content, p) := contentOf ds p text
    paragraphHtml tight p (finishContent o content)
  | .heading _ level text =>
    let element := "h" ++ toString level ++ ">"
    let (content, p) := contentOf ds p text
    ((p.freshLine.puts ("<" ++ element)).put (finishContent o content)).puts ("</" ++ element ++ "\n")
  | .rule _ => p.freshLine.puts "<hr />\n"
  | .code _ info text => codeHtml p info text
  | .html _ text => (p.freshLine.put (if o.allowHtml then text else omittedHtml.toList)).freshLine
  | .table _ t => tableHtml o ds p t
  | .quote _ content =>
    (blocksHtml o ds false (p.freshLine.puts "<blockquote>\n") content).freshLine.puts "</blockquote>\n"
  | .item _ content => (itemHtml o ds tight p content).puts "</li>\n"
  | .list _ marker tight items =>
    let element := if marker.ordered then "ol" else "ul"
    let start := if marker.ordered && marker.start ≠ 1 then
        " start=\"" ++ toString marker.start ++ "\"" else ""
    (blocksHtml o ds tight (p.freshLine.puts ("<" ++ element ++ start ++ ">\n")) items).puts
      ("</" ++ element ++ ">\n")

/-- The blocks of an item. A task's mark is the start of its first paragraph. -/
def itemHtml (o : HtmlOptions) (ds : Definitions) (tight : Bool) (p : Page) : List Block → Page
  | .paragraph _ text :: rest =>
    let (content, p) := contentOf ds p text
    let p := p.freshLine
    let p := match takeTask? content with
      | some (ticked, content) =>
        paragraphHtml tight (p.puts (itemStartHtml (some ticked))) (finishContent o content)
      | none => paragraphHtml tight (p.puts (itemStartHtml none)) (finishContent o content)
    blocksHtml o ds tight p rest
  | b :: rest => blocksHtml o ds tight (blockHtml o ds tight (p.freshLine.puts (itemStartHtml none)) b) rest
  | [] => p.freshLine.puts (itemStartHtml none)

def blocksHtml (o : HtmlOptions) (ds : Definitions) (tight : Bool) (p : Page) : List Block → Page
  | [] => p
  | b :: rest => blocksHtml o ds tight (blockHtml o ds tight p b) rest

end

/-- The bytes that references may bring into a document: as many as the document has, and at least a
hundred thousand. -/
def referenceAllowance (text : List Char) : Nat := max 100000 (utf8Length text)

/-- A markdown text as HTML. -/
def toHtml (o : HtmlOptions) (text : List Char) : List Char :=
  let (blocks, ds) := readBlocks text
  (blocksHtml o ds false { allowance := referenceAllowance text } blocks).output.reverse

end DeckPress.Markdown
