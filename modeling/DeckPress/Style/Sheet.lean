import DeckPress.Style.Tokens

/-!
# Stylesheets

A stylesheet has one rule for each token: those for any screen first, then a media query for each screen
width, narrowest first. Rules are in order of the number of states they ask for and then of their tokens.
-/

namespace DeckPress.Style

/-- The order of rules: by screen width, then by number of states, then by token. -/
def Rule.le (a b : Rule) : Bool :=
  if a.order.1 ≠ b.order.1 then a.order.1 < b.order.1
  else if a.order.2 ≠ b.order.2 then a.order.2 < b.order.2
  else a.token < b.token || a.token = b.token

/-- The text between rules when the media query changes. -/
def mediaBreak (before after : Option String) : String :=
  if before = after then ""
  else
    (if before.isSome then "\x7d\n" else "") ++
    match after with
    | some condition => "@media " ++ condition ++ " \x7b\n"
    | none => ""

/-- The text of rules, with `media` the media query that is open in front of them. -/
def rulesText (media : Option String) : List Rule → String
  | [] => mediaBreak media none
  | r :: rs => mediaBreak media r.media ++ r.css ++ rulesText r.media rs

/-- The first line of a stylesheet. -/
def sheetHeader : String := "/* windicss utilities */\n"

/-- The stylesheet for a set of tokens. -/
def Theme.stylesheet (t : Theme) (tokens : TokenSet) : String :=
  sheetHeader ++ rulesText none ((tokens.filterMap t.rule?).mergeSort Rule.le)

end DeckPress.Style
