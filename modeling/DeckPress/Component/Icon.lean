import DeckPress.Component.Name

/-!
# Icons

A tag that starts with the icon prefix, or with the name of an icon collection, stands for an icon:
`<IconFoo/>`, `<carbon-add/>`, `<IconMdiAccount/>`. Of several collections that fit, the one with the
longest name counts. A prefixed tag without a collection is looked for in the default collection.
-/

namespace DeckPress.Component

open Text

/-- How tags name icons. -/
structure IconOptions where
  /-- The word in front of an icon tag. -/
  tagPrefix : String := "icon"
  defaultCollection : String := "carbon"
  collections : List String :=
    ["bi", "bx", "carbon", "emojione", "fa", "fa-brands", "fa-solid", "fluent", "heroicons", "ic",
      "la", "logos", "lucide", "material-symbols", "mdi", "noto", "octicon", "ph", "ri",
      "simple-icons", "tabler", "twemoji", "uil", "vscode-icons"]
  deriving Repr

/-- An icon and the collection it is in. -/
structure Icon where
  collection : String
  name : String
  deriving DecidableEq, Repr

namespace IconOptions

/-- The collections, longest name first, names of one length in order. -/
def byLength (o : IconOptions) : List String :=
  o.collections.mergeSort fun a b =>
    b.utf8ByteSize < a.utf8ByteSize || (a.utf8ByteSize = b.utf8ByteSize && (a < b || a = b))

/-- What follows a word and a hyphen, if that is not nothing. -/
def afterWord? (word : String) (name : List Char) : Option (List Char) :=
  (stripPrefix? (word.toList ++ ['-']) name).filter (!·.isEmpty)

/-- The first collection that a name starts with, and the icon behind it. -/
def splitCollection? (o : IconOptions) (name : List Char) : Option Icon :=
  o.byLength.findSome? fun collection =>
    (afterWord? collection name).map fun icon => ⟨collection, String.ofList icon⟩

/-- What follows the icon prefix in a hyphenated tag. An empty prefix stands before nothing. -/
def afterPrefix? (o : IconOptions) (kebab : List Char) : Option (List Char) :=
  let word := String.ofList (lowercase o.tagPrefix.toList)
  if word.isEmpty then none else afterWord? word kebab

/-- The icon that a tag stands for. -/
def icon? (o : IconOptions) (tag : String) : Option Icon :=
  let kebab := (kebabCase tag).toList
  match o.afterPrefix? kebab with
  | some name =>
    match o.splitCollection? name with
    | some icon => some icon
    | none => some ⟨o.defaultCollection, String.ofList name⟩
  | none => o.splitCollection? kebab

/-- The import of the icon that a tag stands for. -/
def resolve? (o : IconOptions) (tag : String) : Option Resolution :=
  (o.icon? tag).map fun icon =>
    ⟨pascalCase tag, "~icons/" ++ icon.collection ++ "/" ++ icon.name⟩

end IconOptions

end DeckPress.Component
