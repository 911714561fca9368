import DeckPress.Encoding.Base64
import DeckPress.Text.Basic

/-!
# Editors in slides

A code fence whose info is a language and `{monaco}` asks for an interactive editor. Such fences are
replaced by an editor component before the markdown is compiled; the sample travels in base64. The fence
must start its line with exactly three backticks, and ends with the next line that consists of three
backticks and blanks.
-/

namespace DeckPress.Code.Editor

open Text

def isLineBlank (c : Char) : Bool := c = ' ' || c = '\t'

/-- The characters of the options behind the word `monaco`. -/
def isOptionChar (c : Char) : Bool := isWord c || c = ':' || c = ',' || c = '-'

/-- The language and the options of a line that opens an editor fence. -/
def opening? (line : List Char) : Option (List Char × List Char) := do
  let rest ← stripPrefix? "```".toList line
  let language := rest.takeWhile isWord
  if language.isEmpty then none
  let rest ← stripPrefix? ("\x7bmonaco".toList) ((rest.dropWhile isWord).dropWhile isLineBlank)
  let options := rest.takeWhile isOptionChar
  match rest.dropWhile isOptionChar with
  | '}' :: rest => if rest.all isLineBlank then some (language, options) else none
  | _ => none

/-- A line that closes an editor fence. -/
def closes (line : List Char) : Bool :=
  (stripPrefix? "```".toList line).any (·.all isLineBlank)

/-- The component in place of a fence. -/
def component (language options : List Char) (sample : List (List Char)) : List Char :=
  let text := String.ofList (sample.flatMap (· ++ ['\n']))
  "<Monaco :code=\"'".toList ++ Base64.encode text.toUTF8.toList ++ "'\" lang=\"".toList ++
    language ++ "\" :readonly=\"".toList ++
    (if containsText "readonly".toList options then "true" else "false").toList ++ "\" />".toList

/-- Replaces the editor fences among the lines of a text. A blank line follows each component. -/
def replaceIn : List (List Char) → List (List Char)
  | [] => []
  | line :: rest =>
    match opening? line with
    | some (language, options) =>
      match rest.findIdx? closes with
      | some close =>
        component language options (rest.take close) :: [] :: replaceIn (rest.drop (close + 1))
      | none => line :: replaceIn rest
    | none => line :: replaceIn rest
termination_by ls => ls.length
decreasing_by all_goals simp only [List.length_cons, List.length_drop]; omega

/-- Whether there is an editor fence among the lines of a text. -/
def isIn : List (List Char) → Bool
  | [] => false
  | line :: rest => ((opening? line).isSome && rest.any closes) || isIn rest

/-- Whether a markdown text asks for an editor. -/
def wanted (markdown : String) : Bool := isIn (splitOn (· = '\n') markdown.toList)

/-- Replaces the editor fences of a markdown text. -/
def replace (markdown : String) : String :=
  String.ofList (joinLines (replaceIn (splitOn (· = '\n') markdown.toList)))

end DeckPress.Code.Editor
