import DeckPress.Artifact

/-!
# Braces in code samples

Two braces in a template start an interpolation, so the markdown compiler marks every opening brace
inside a code sample with a backslash; backslashes of the sample itself become entities first. The
marks are taken out again once the template is written.
-/

namespace DeckPress.Component.Brace

open Text

/-- Marks the opening braces of a code sample. -/
def protect (html : List Char) : List Char :=
  html.flatMap fun c =>
    if c = '\\' then "&#92;".toList else if c = '{' then ['\\', '{'] else [c]

/-- Drops the backslashes directly in front of an opening brace. -/
def unescape : List Char → List Char
  | [] => []
  | c :: cs =>
    let rest := unescape cs
    if c = '\\' && rest.head? = some '{' then rest else c :: rest

/-- Only what was compiled from markdown carries marks. -/
def appliesTo (a : Artifact) : Bool := a.fromMarkdown && a.kind = .script

/-- Takes the marks out of an artifact. -/
def apply (a : Artifact) : Artifact :=
  if appliesTo a then { a with code := String.ofList (unescape a.code.toList) } else a

end DeckPress.Component.Brace
