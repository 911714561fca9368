import DeckPress.Style.Vocabulary

/-!
# Rules of utility classes

A token is a utility with variants in front of it, separated by colons. The utility says what is declared;
variants restrict it to a screen width, to states of the element, or to dark pages. Each variant may
appear once, and only one screen width. An exclamation mark in front of the utility makes its
declarations important.
-/

namespace DeckPress.Style

open Text

/-- Numbers are written with all digits and no exponent. -/
def numberLayout : FloatLayout where
  largest := none
  smallest := none
  wholeEnd := ""
  positiveExponent := ""
  infinity := "inf"
  notANumber := "NaN"

/-- Digits with at most one point among them. -/
def number? (s : List Char) : Option Binary64 :=
  if s.all fun c => isAsciiDigit c || c = '.' then (Decimal.read? s).map Decimal.toBinary64 else none

def quarter : Binary64 := .nearest false 1 4

def hundred : Binary64 := .ofNat 100

def million : Binary64 := .ofNat 1000000

/-- A distance: steps of a quarter of the font size, or one pixel. -/
def spacing? (s : List Char) : Option String :=
  if s = ['0'] then some "0px"
  else if s = ['p', 'x'] then some "1px"
  else (number? s).map fun n => numberLayout.render (n.mul quarter) ++ "rem"

/-- A fraction as a percentage with at most six decimal places. -/
def fraction? (s : List Char) : Option String := do
  let (a, b) ← splitAt? ['/'] s
  let a ← number? a
  let b ← number? b
  if b.isZero then none
  else some (numberLayout.render ((((a.div b).mul hundred).mul million).round.div million) ++ "%")

/-- A width or height; `screen` is the extent of the screen on that axis. -/
def size? (screen : String) (s : List Char) : Option String :=
  match [("full", "100%"), ("screen", screen), ("auto", "auto"), ("min", "min-content"),
      ("max", "max-content"), ("fit", "fit-content")].lookup (String.ofList s) with
  | some v => some v
  | none =>
    match fraction? s with
    | some v => some v
    | none => spacing? s

/-- A class token inside a selector. A digit at the start is written as its code point. -/
def escapeSelector (token : List Char) : List Char :=
  let escaped (c : Char) : List Char :=
    if isAsciiAlnum c || c = '-' || c = '_' then [c] else ['\\', c]
  match token with
  | c :: rest =>
    (if isAsciiDigit c then ['\\', '3', c, ' '] else escaped c) ++ rest.flatMap escaped
  | [] => []

/-- What a project adds to the vocabulary. -/
structure Theme where
  /-- Names for several utilities. -/
  shortcuts : List (String × String) := []
  /-- Colors, or objects with the shades of a color. -/
  colors : List (String × Json) := []
  deriving Repr

/-- A name split at its last hyphen. -/
def splitShade? (name : List Char) : Option (String × String) :=
  (splitAtLast? ['-'] name).map fun (color, shade) => (String.ofList color, String.ofList shade)

namespace Theme

/-- A color of the project, or a shade of one. -/
def color? (t : Theme) (name : List Char) : Option String :=
  match t.colors.lookup (String.ofList name) with
  | some (.str value) => some value
  | _ => do
    let (color, shade) ← splitShade? name
    match t.colors.lookup color with
    | some (.obj shades) => (← Fields.get? shades shade).str?
    | _ => none

end Theme

/-- A shade of a color of the palette. -/
def paletteColor? (name : List Char) : Option String := do
  let (color, shade) ← splitShade? name
  let (hue, saturation) ← palette.lookup color
  let lightness ← shadeLightness.lookup shade
  return "hsl(" ++ toString hue ++ ", " ++ toString saturation ++ "%, " ++ toString lightness ++ "%)"

/-- The color that a name stands for. -/
def color? (t : Theme) (name : List Char) : Option String :=
  match [("white", "#fff"), ("black", "#000"), ("transparent", "transparent"),
      ("current", "currentColor")].lookup (String.ofList name) with
  | some v => some v
  | none =>
    match t.color? name with
    | some v => some v
    | none => paletteColor? name

/-- A declaration with a value that a name may not have. -/
def declare (property : String) (value : Option String) : Option (List Declaration) :=
  value.map fun v => [⟨property, v⟩]

/-- The declarations of a distance. Paddings and gaps have no negative values and no automatic ones. -/
def spacingDeclarations? (negative : Bool) (start : String) (properties : List String)
    (value : List Char) : Option (List Declaration) :=
  let signed := !start.startsWith "p" && !start.startsWith "gap"
  if negative && !signed then none
  else
    let value? := if signed && value = "auto".toList then some "auto" else spacing? value
    value?.map fun v => properties.map fun p => ⟨p, if negative then "-" ++ v else v⟩

/-- The declarations of text size or color. -/
def textDeclarations? (t : Theme) (name : List Char) : Option (List Declaration) :=
  match fontSizes.lookup (String.ofList name) with
  | some (size, line) => some [⟨"font-size", size⟩, ⟨"line-height", line⟩]
  | none => declare "color" (color? t name)

def borderDeclarations? (t : Theme) (name : List Char) : Option (List Declaration) :=
  match number? name with
  | some n => some [⟨"border-width", numberLayout.render n ++ "px"⟩]
  | none => declare "border-color" (color? t name)

/-- A whole number. -/
def whole? (s : List Char) : Option (Nat × String) :=
  (number? s).bind fun n => n.toNat?.map fun k => (k, numberLayout.render n)

def maxWidth? (s : List Char) : Option String :=
  match maxWidths.lookup (String.ofList s) with
  | some v => some v
  | none => size? "100vw" s

def opacity? (s : List Char) : Option String :=
  ((number? s).filter (·.leNat 100)).map fun n => numberLayout.render (n.div hundred)

def layer? (s : List Char) : Option String :=
  if s = "auto".toList then some "auto" else (whole? s).map (·.2)

def columns? (s : List Char) : Option String :=
  ((whole? s).filter fun (n, _) => 1 ≤ n && n ≤ 12).map fun (_, n) =>
    "repeat(" ++ n ++ ", minmax(0, 1fr))"

/-- The starts of names that take a value, with the declarations for a value. -/
def valueUtilities (t : Theme) : List (String × (List Char → Option (List Declaration))) :=
  [("w-", fun v => declare "width" (size? "100vw" v)),
    ("h-", fun v => declare "height" (size? "100vh" v)),
    ("min-w-", fun v => declare "min-width" (size? "100vw" v)),
    ("min-h-", fun v => declare "min-height" (size? "100vh" v)),
    ("max-w-", fun v => declare "max-width" (maxWidth? v)),
    ("max-h-", fun v => declare "max-height" (size? "100vh" v)),
    ("text-", textDeclarations? t),
    ("bg-", fun v => declare "background-color" (color? t v)),
    ("border-", borderDeclarations? t),
    ("font-", fun v => declare "font-weight" (fontWeights.lookup (String.ofList v))),
    ("leading-", fun v => declare "line-height" (lineHeights.lookup (String.ofList v))),
    ("tracking-", fun v => declare "letter-spacing" (letterSpacings.lookup (String.ofList v))),
    ("opacity-", fun v => declare "opacity" (opacity? v)),
    ("z-", fun v => declare "z-index" (layer? v)),
    ("grid-cols-", fun v => declare "grid-template-columns" (columns? v))]

/-- The entry of a table whose key a name starts with, and the rest of the name. -/
def byStart? {α : Type} (table : List (String × α)) (name : List Char) : Option (String × α × List Char) :=
  table.findSome? fun (start, a) => (stripPrefix? start.toList name).map fun v => (start, a, v)

/-- The declarations of a utility that is no shortcut. -/
def baseDeclarations? (t : Theme) (utility : List Char) : Option (List Declaration) :=
  match fixedUtilities.lookup (String.ofList utility) with
  | some ds => some ds
  | none =>
    let (negative, body) := match utility with
      | '-' :: rest => (true, rest)
      | _ => (false, utility)
    match byStart? spacings body with
    | some (start, properties, v) => spacingDeclarations? negative start properties v
    | none =>
      if negative then none
      else
        match byStart? (valueUtilities t) body with
        | some (_, f, v) => f v
        | none => none

/-- The declarations of all utilities of a shortcut. Variants and other shortcuts in it are passed over;
something must be left, and all of it must be known. -/
def shortcutDeclarations? (t : Theme) (expansion : String) : Option (List Declaration) :=
  let parts := (words expansion.toList).filter fun p =>
    !p.contains ':' && (t.shortcuts.lookup (String.ofList p)).isNone
  ((parts.mapM (baseDeclarations? t)).map List.flatten).filter (!·.isEmpty)

/-- The declarations of a utility. -/
def declarations? (t : Theme) (utility : List Char) : Option (List Declaration) :=
  match t.shortcuts.lookup (String.ofList utility) with
  | some expansion => shortcutDeclarations? t expansion
  | none => baseDeclarations? t utility

/-- What the variants of a token ask for. -/
structure Variants where
  /-- The place of the screen width among the breakpoints, counted from 1, and its condition. -/
  media : Option (Nat × String) := none
  dark : Bool := false
  /-- The states, in order. -/
  states : List String := []
  /-- The variants so far. -/
  seen : List String := []
  deriving Repr

namespace Variants

/-- Adds a variant; none if it is unknown, repeated, or a second screen width. -/
def add? (v : Variants) (name : String) : Option Variants :=
  if v.seen.contains name then none
  else
    let v := { v with seen := name :: v.seen }
    match breakpoints.findIdx? (·.1 = name), breakpoints.lookup name with
    | some i, some condition =>
      if v.media.isSome then none else some { v with media := some (i + 1, condition) }
    | _, _ =>
      if stateVariants.contains name then some { v with states := v.states ++ [name] }
      else if name = "dark" then some { v with dark := true }
      else none

/-- How many states are asked for, dark pages counted as one. -/
def stateCount (v : Variants) : Nat := v.states.length + if v.dark then 1 else 0

end Variants

/-- The rule of one token. -/
structure Rule where
  token : String
  selector : String
  media : Option String
  declarations : List Declaration
  /-- The place of the screen width, 0 where there is none, and the number of states. -/
  order : Nat × Nat
  deriving Repr

/-- The text of a rule; inside a media query it is indented. -/
def Rule.css (r : Rule) : String :=
  let indent := if r.media.isSome then "  " else ""
  indent ++ r.selector ++ " \x7b\n" ++
    String.join (r.declarations.map fun d =>
      indent ++ "  " ++ d.property ++ ": " ++ d.value ++ ";\n") ++
    indent ++ "\x7d\n"

/-- Makes declarations important. -/
def makeImportant (ds : List Declaration) : List Declaration :=
  ds.map fun d => { d with value := d.value ++ " !important" }

/-- The selector of a token with its variants. -/
def selectorOf (token : String) (v : Variants) : String :=
  (if v.dark then ".dark ." else ".") ++ String.ofList (escapeSelector token.toList) ++
    String.join (v.states.map (":" ++ ·))

/-- The rule of a token; none if it is no utility. -/
def Theme.rule? (t : Theme) (token : String) : Option Rule := do
  let parts := splitOn (· = ':') token.toList
  let utility ← parts.getLast?
  if utility.isEmpty then none
  let v ← parts.dropLast.foldlM (fun (v : Variants) p => v.add? (String.ofList p)) {}
  let (important, utility) := match utility with
    | '!' :: rest => (true, rest)
    | _ => (false, utility)
  let ds ← declarations? t utility
  return {
    token
    selector := selectorOf token v
    media := v.media.map (·.2)
    declarations := if important then makeImportant ds else ds
    order := ((v.media.map (·.1)).getD 0, v.stateCount) }

end DeckPress.Style
