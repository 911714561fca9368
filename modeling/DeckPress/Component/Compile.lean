import DeckPress.Code.Editor
import DeckPress.Component.CodeRegion
import DeckPress.Component.Hoist
import DeckPress.Deck.FrontMatter
import DeckPress.Markdown.Html

/-!
# Markdown files as components

A markdown file becomes a component: its content is the template, its front matter a constant of the
setup script. Fences must be closed, and so must interpolations outside code samples.
-/

namespace DeckPress.Component

open Text

/-- How markdown is compiled. -/
structure MarkdownOptions where
  /-- Classes of the element around the content. -/
  wrapperClasses : String := ""
  /-- Whether the component sets title and meta data of the page. -/
  headEnabled : Bool := true
  /-- Whether raw HTML is kept. -/
  html : Bool := true
  /-- Whether addresses in text become links. -/
  linkify : Bool := true
  /-- Whether code samples are coloured. -/
  highlight : Bool := true
  /-- Whether editors are put in place of the fences that ask for them. -/
  monaco : Bool := true
  deriving Repr

/-- The run of backticks and tildes that a line starts with. -/
def fenceRun (line : List Char) : List Char :=
  (trimStart line).takeWhile fun c => c = '`' || c = '~'

/-- Whether a run closes a fence: it is as long and starts with the same sign. -/
def closesFence (fence run : List Char) : Bool :=
  fence.length ≤ run.length && run.head?.isSome && run.head? = fence.head?

/-- The line of the fence that is open at the end of the lines, counted from 1. The state is the number of
the next line and the open fence with its line. -/
def openFence? (line : Nat) (fence : Option (Nat × List Char)) : List (List Char) → Option Nat
  | [] => fence.map (·.1)
  | l :: ls =>
    let run := fenceRun l
    match fence with
    | some (start, f) => openFence? (line + 1) (if closesFence f run then none else some (start, f)) ls
    | none => openFence? (line + 1) (if 3 ≤ run.length then some (line, run) else none) ls

/-- Whether every interpolation of a template is closed. -/
def interpolationsClosed (html : List Char) : Bool := go html.length html
where
  /-- Every step uses up characters, so `fuel` is the length of the text. -/
  go : Nat → List Char → Bool
    | 0, _ => true
    | fuel + 1, s =>
      match splitAt? ['{', '{'] s with
      | none => true
      | some (_, after) =>
        match splitAt? ['}', '}'] after with
        | some (_, rest) => go fuel rest
        | none => false

/-- The classes of the element around the content. -/
def wrapperClasses (o : MarkdownOptions) (fields : Fields) : List String :=
  (if o.wrapperClasses.isEmpty then [] else [o.wrapperClasses]) ++
    ((fields.get? "class").bind Json.str?).toList

/-- The component around a template. -/
def assemble (o : MarkdownOptions) (fields : Fields) (template : List Char) (h : Hoisted) : String :=
  let classes := wrapperClasses o fields
  "<template>\n" ++
  (if classes.isEmpty then "<div>\n" else "<div class=\"" ++ String.intercalate " " classes ++ "\">\n") ++
  String.ofList template ++
  "\n</div>\n</template>\n\n" ++
  (if h.typescript then "<script setup lang=\"ts\">\n" else "<script setup>\n") ++
  (if o.headEnabled then "import \x7b useHead \x7d from '@vueuse/head'\n" else "") ++
  "const frontmatter = " ++ Json.text (.obj fields) ++ "\n" ++
  "defineExpose(\x7b frontmatter \x7d)\n" ++
  (if o.headEnabled then
    "useHead(\x7b title: frontmatter.title, meta: frontmatter.meta \x7d)\n" else "") ++
  String.join (h.setup.map fun s => String.ofList (trim s) ++ "\n") ++
  "</script>\n" ++
  String.join ((h.scripts ++ h.styles).map fun s => "\n" ++ String.ofList (trim s) ++ "\n")

/-- The HTML of a body, with code samples in final form. -/
def renderBody (o : MarkdownOptions) (body : String) : List Char :=
  let body := if o.monaco then Code.Editor.replace body else body
  renderCode o.highlight
    (Markdown.toHtml { allowHtml := o.html, linkAddresses := o.linkify } body.toList)

/-- Compiles a markdown file. -/
def compile (o : MarkdownOptions) (source : String) : Except CompileFault String := do
  let (fields, body) ← Deck.splitFrontMatter source
  match openFence? 1 none (lines body.toList) with
  | some line => throw (.openFence line)
  | none =>
    let html := renderBody o body
    if !interpolationsClosed html then throw .openInterpolation
    let (template, hoisted) := hoist html
    return assemble o fields (trim template) hoisted

end DeckPress.Component
