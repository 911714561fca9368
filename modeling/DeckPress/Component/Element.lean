import DeckPress.Component.Name

/-!
# Components for plain elements

A tag such as `<VueDiv>` or `<vue-section>` stands for a plain element. It is served by a generated
component that renders the element with the attributes and the default slot given to it.
-/

namespace DeckPress.Component.Element

open Text

/-- The ids of generated wrappers start so. -/
def idStart : String := "/@vue-factory/"

/-- Tags that stand for elements start so in their hyphenated spelling. -/
def tagStart : String := "vue-"

/-- The elements that can be wrapped. -/
def names : List String :=
  ["a", "article", "aside", "blockquote", "button", "canvas", "code", "div", "figure", "footer",
    "form", "h1", "h2", "h3", "h4", "h5", "h6", "header", "iframe", "img", "input", "label", "li",
    "main", "nav", "ol", "p", "pre", "section", "span", "table", "td", "textarea", "th", "tr", "ul",
    "video"]

/-- The element with this name, if it can be wrapped. -/
def known? (name : String) : Option String := names.find? (· = name)

/-- The element that a tag stands for. -/
def ofTag? (tag : String) : Option String :=
  (stripPrefix? tagStart.toList (kebabCase tag).toList).bind fun e => known? (String.ofList e)

/-- The import of the wrapper that a tag stands for. -/
def resolve? (tag : String) : Option Resolution :=
  (ofTag? tag).map fun element => ⟨pascalCase tag, idStart ++ element⟩

/-- The wrapper of an element. -/
def moduleCode (element : String) : String :=
  let name := pascalCase (tagStart ++ element)
  "import \x7b h, defineComponent \x7d from 'vue'\n\n" ++
  "export default defineComponent(\x7b\n" ++
  "  name: '" ++ name ++ "',\n" ++
  "  inheritAttrs: false,\n" ++
  "  setup(_, \x7b slots, attrs \x7d) \x7b\n" ++
  "    return () => h('" ++ element ++ "', attrs, slots.default?.())\n" ++
  "  \x7d,\n" ++
  "\x7d)\n"

end DeckPress.Component.Element
