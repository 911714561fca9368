import DeckPress.Text.Case

/-!
# Languages of code samples

What is needed to colour a sample: how comments are written, which quotes there are besides the two
common ones, and which words are keywords. Languages that are alike share an entry.
-/

namespace DeckPress.Code

open Text

/-- The tokens of a family of languages. -/
structure Language where
  /-- The names that code fences use. -/
  names : List String
  /-- What starts a comment that ends with its line. -/
  lineComments : List String := []
  /-- What starts and what ends a comment that may span lines. -/
  blockComments : List (String × String) := []
  /-- Whether backticks quote text that may span lines. -/
  backtickStrings : Bool := false
  keywords : List String := []

/-- The known languages. -/
def languages : List Language := [
  { names := ["js", "javascript", "ts", "typescript", "jsx", "tsx", "mjs", "cjs", "json"]
    lineComments := ["//"]
    blockComments := [("/*", "*/")]
    backtickStrings := true
    keywords :=
      ["as", "async", "await", "break", "case", "catch", "class", "const", "continue", "default",
        "delete", "do", "else", "enum", "export", "extends", "false", "finally", "for", "from",
        "function", "if", "import", "in", "instanceof", "interface", "let", "new", "null", "of",
        "return", "static", "super", "switch", "this", "throw", "true", "try", "type", "typeof",
        "undefined", "var", "void", "while", "yield"] },
  { names := ["rust", "rs"]
    lineComments := ["//"]
    blockComments := [("/*", "*/")]
    keywords :=
      ["as", "async", "await", "break", "const", "continue", "crate", "dyn", "else", "enum", "extern",
        "false", "fn", "for", "if", "impl", "in", "let", "loop", "match", "mod", "move", "mut", "pub",
        "ref", "return", "self", "Self", "static", "struct", "super", "trait", "true", "type",
        "unsafe", "use", "where", "while"] },
  { names := ["py", "python"]
    lineComments := ["#"]
    keywords :=
      ["and", "as", "assert", "async", "await", "break", "class", "continue", "def", "del", "elif",
        "else", "except", "False", "finally", "for", "from", "global", "if", "import", "in", "is",
        "lambda", "None", "nonlocal", "not", "or", "pass", "raise", "return", "True", "try", "while",
        "with", "yield"] },
  { names := ["sh", "bash", "shell", "zsh", "yaml", "yml", "toml"]
    lineComments := ["#"]
    keywords :=
      ["if", "then", "else", "elif", "fi", "for", "while", "do", "done", "case", "esac", "function",
        "export", "true", "false", "null"] },
  { names := ["html", "vue", "xml", "svg", "markup"]
    blockComments := [("<!--", "-->")] },
  { names := ["css", "scss", "less", "postcss"]
    blockComments := [("/*", "*/")]
    keywords := ["important"] }]

/-- The language that a fence names; capitals do not count. -/
def Language.find? (name : String) : Option Language :=
  let name := String.ofList (name.toList.map asciiLower)
  languages.find? (·.names.contains name)

end DeckPress.Code
