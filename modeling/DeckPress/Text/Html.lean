import DeckPress.Text.Basic

/-!
# Text inside HTML

Four characters are written as entities. Reading them back replaces one entity after the other over the
whole text, the ampersand last, so that an entity made of an entity is read only once.
-/

namespace DeckPress.Text

/-- One character of text inside HTML. -/
def escapeHtmlChar (c : Char) : List Char :=
  match c with
  | '&' => "&amp;".toList
  | '<' => "&lt;".toList
  | '>' => "&gt;".toList
  | '"' => "&quot;".toList
  | _ => [c]

/-- Text as it is written inside HTML. -/
def escapeHtml (s : List Char) : List Char := s.flatMap escapeHtmlChar

/-- The entities that are read back, in this order, and what they stand for. -/
def readEntities : List (String × Char) :=
  [("&quot;", '"'), ("&#39;", '\''), ("&lt;", '<'), ("&gt;", '>'), ("&amp;", '&')]

/-- The text that HTML text stands for. -/
def unescapeHtml (s : List Char) : List Char :=
  readEntities.foldl (fun s e => replaceAll e.1.toList [e.2] s) s

end DeckPress.Text
