import DeckPress.Text.Case
import DeckPress.Text.Category
import DeckPress.Text.Table.Age
import DeckPress.Text.Table.Property
import DeckPress.Text.Table.Script
import DeckPress.Text.Table.ScriptExtension

/-!
# Characters by property

A regular expression may ask for the characters with a property of Unicode: for a general category, a
script, an age, or a property that holds or does not. Names are compared loosely: letter case, blanks,
hyphens, underscores and an *is* in front do not count.
-/

namespace DeckPress.Regex

open Text

/-- What is asked for: a name that stands alone, or a property and its value. -/
inductive PropertyQuery where
  | one (name : List Char)
  | value (property value : List Char)
  deriving DecidableEq, Repr

/-- A name with what counts in it. An *is* in front that only `c` follows belongs to the name, because
`isc` names a property. -/
def propertyKey (name : List Char) : String :=
  let strip (s : List Char) : List Char :=
    (s.filter fun c => c.toNat < 0x80 && !([' ', '_', '-'].contains c)).map asciiLower
  match name with
  | i :: s :: rest =>
    if asciiLower i = 'i' && asciiLower s = 's' then
      let key := strip rest
      if key = ['c'] then "isc" else String.ofList key
    else String.ofList (strip name)
  | _ => String.ofList (strip name)

/-- Whether a blank-separated list of names has a name. -/
def isNamed (names : String) (key : String) : Bool := (tableFields names.toList).contains key.toList

/-- The names of the general categories, and the two-letter categories that they stand for. -/
def categoryNames : List (String × String) :=
  [("l letter", "lu ll lt lm lo"), ("lc casedletter", "lu ll lt"), ("lu uppercaseletter", "lu"),
    ("ll lowercaseletter", "ll"), ("lt titlecaseletter", "lt"), ("lm modifierletter", "lm"),
    ("lo otherletter", "lo"), ("m mark combiningmark", "mn mc me"), ("mn nonspacingmark", "mn"),
    ("mc spacingmark", "mc"), ("me enclosingmark", "me"), ("n number", "nd nl no"),
    ("nd decimalnumber digit", "nd"), ("nl letternumber", "nl"), ("no othernumber", "no"),
    ("p punctuation punct", "pc pd ps pe pi pf po"), ("pc connectorpunctuation", "pc"),
    ("pd dashpunctuation", "pd"), ("ps openpunctuation", "ps"), ("pe closepunctuation", "pe"),
    ("pi initialpunctuation", "pi"), ("pf finalpunctuation", "pf"), ("po otherpunctuation", "po"),
    ("s symbol", "sm sc sk so"), ("sm mathsymbol", "sm"), ("sc currencysymbol", "sc"),
    ("sk modifiersymbol", "sk"), ("so othersymbol", "so"), ("z separator", "zs zl zp"),
    ("zs spaceseparator", "zs"), ("zl lineseparator", "zl"), ("zp paragraphseparator", "zp"),
    ("c other", "cc cf co cn"), ("cc control cntrl", "cc"), ("cf format", "cf"),
    ("co privateuse", "co"), ("cn unassigned", "cn")]

/-- The members of a general category. -/
def category? (key : String) : Option CodeRanges :=
  match key with
  | "any" => some .all
  | "assigned" => some assigned.get
  | "ascii" => some ⟨#[(0, 0x7f)]⟩
  | _ => (categoryNames.find? fun (names, _) => isNamed names key).map fun (_, codes) => categories codes

/-- The entry of a script. -/
def script? (key : String) : Option (String × String) :=
  scriptTable.find? fun (names, _) => isNamed names key

/-- The characters that belong to a script. -/
def ofScript? (key : String) : Option CodeRanges := (script? key).map fun (_, codes) => .ofHex codes

/-- The characters that are used with a script. -/
def usedWithScript? (key : String) : Option CodeRanges :=
  (script? key).map fun (names, codes) =>
    let code := String.ofList (names.toList.takeWhile (· ≠ ' '))
    let shared := scriptExtensionTable.map fun (scripts, codes) => (scripts, CodeRanges.ofHex codes)
    let own := (CodeRanges.ofHex codes).minus (.unionAll (shared.map (·.2)))
    .unionAll (own :: (shared.filter fun (scripts, _) => isNamed scripts code).map (·.2))

/-- The characters that an edition of the standard has. Editions are written `3.0` or `v30`. -/
def ofAge? (key : String) : Option CodeRanges :=
  let isEdition (edition : String) : Bool :=
    key = edition || key = "v" ++ String.ofList (edition.toList.filter (· ≠ '.'))
  if ageTable.any fun (edition, _) => isEdition edition then
    let earlier := ageTable.takeWhile fun (edition, _) => !isEdition edition
    some (.unionAll ((ageTable.take (earlier.length + 1)).map fun (_, codes) => .ofHex codes))
  else none

/-- The characters with a property that holds or does not. -/
def withProperty? (key : String) : Option CodeRanges :=
  (propertyTable.find? fun (names, _) => isNamed names key).map fun (_, near, codes) =>
    (categories near).differ (.ofHex codes)

/-- The characters that a query asks for; none if there is no such property. A name that stands alone is
that of a property, a general category or a script. -/
def PropertyQuery.characters? : PropertyQuery → Option CodeRanges
  | .one name =>
    let key := propertyKey name
    withProperty? key <|> category? key <|> ofScript? key
  | .value property member =>
    let key := propertyKey member
    match propertyKey property with
    | "gc" | "generalcategory" => category? key
    | "sc" | "script" => ofScript? key
    | "scx" | "scriptextensions" => usedWithScript? key
    | "age" => ofAge? key
    | _ => none

end DeckPress.Regex
