import DeckPress.Text.Case
import DeckPress.Text.Basic

/-!
# Component names

A component has one name, `MyButton`, and several spellings as a tag: `MyButton`, `my-button`,
`my_button`. The capitalized spelling identifies it.
-/

namespace DeckPress.Component

open Text

/-- The characters between the words of a name. -/
def isNameBreak (c : Char) : Bool := c = '-' || c = '_' || c = '.' || c = ' '

/-- Drops the breaks and capitalizes the character behind each. `upperNext` holds behind a break and at
the start. -/
def pascalFrom (upperNext : Bool) : List Char → List Char
  | [] => []
  | c :: cs =>
    if isNameBreak c then pascalFrom true cs
    else if upperNext then charUpper c ++ pascalFrom false cs
    else c :: pascalFrom false cs

/-- The capitalized spelling of a name. -/
def pascalCase (name : String) : String := String.ofList (pascalFrom true name.toList)

/-- Writes capitals small, with a hyphen in front of those that follow a small letter or a digit.
`afterSmall` holds behind such a character. -/
def kebabFrom (afterSmall : Bool) : List Char → List Char
  | [] => []
  | c :: cs =>
    if isAsciiUpper c then
      if afterSmall then '-' :: asciiLower c :: kebabFrom false cs
      else asciiLower c :: kebabFrom false cs
    else if c = '_' then '-' :: kebabFrom false cs
    else c :: kebabFrom (isAsciiLower c || isAsciiDigit c) cs

/-- The hyphenated spelling of a name. -/
def kebabCase (name : String) : String := String.ofList (kebabFrom false name.toList)

/-- What a component is imported as, and from where. -/
structure Resolution where
  specifier : String
  path : String
  deriving DecidableEq, Repr

/-- The import statement. -/
def Resolution.statement (r : Resolution) : String :=
  "import " ++ r.specifier ++ " from '" ++ r.path ++ "'"

end DeckPress.Component
