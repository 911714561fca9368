import DeckPress.Json.Value
import DeckPress.Number.Decimal

/-!
# Names of utility classes

The values that utility classes name: sizes, colors, and whole declarations for those that have no
value in their name.
-/

namespace DeckPress.Style

/-- A CSS declaration. -/
structure Declaration where
  property : String
  value : String
  deriving DecidableEq, Repr

/-- The screen widths that a variant can ask for, narrowest first. -/
def breakpoints : List (String × String) :=
  [("sm", "(min-width: 640px)"), ("md", "(min-width: 768px)"), ("lg", "(min-width: 1024px)"),
    ("xl", "(min-width: 1280px)"), ("2xl", "(min-width: 1536px)")]

/-- The variants that stand for a state of the element. -/
def stateVariants : List String := ["hover", "focus", "active", "visited", "disabled"]

/-- The starts of names that set distances, and what they set. -/
def spacings : List (String × List String) :=
  [("m-", ["margin"]), ("mx-", ["margin-left", "margin-right"]),
    ("my-", ["margin-top", "margin-bottom"]), ("mt-", ["margin-top"]), ("mr-", ["margin-right"]),
    ("mb-", ["margin-bottom"]), ("ml-", ["margin-left"]), ("p-", ["padding"]),
    ("px-", ["padding-left", "padding-right"]), ("py-", ["padding-top", "padding-bottom"]),
    ("pt-", ["padding-top"]), ("pr-", ["padding-right"]), ("pb-", ["padding-bottom"]),
    ("pl-", ["padding-left"]), ("gap-x-", ["column-gap"]), ("gap-y-", ["row-gap"]),
    ("gap-", ["gap"]), ("inset-", ["top", "right", "bottom", "left"]), ("top-", ["top"]),
    ("right-", ["right"]), ("bottom-", ["bottom"]), ("left-", ["left"])]

/-- Names that stand for fixed declarations. -/
def fixedUtilities : List (String × List Declaration) :=
  [("block", [⟨"display", "block"⟩]), ("inline-block", [⟨"display", "inline-block"⟩]),
    ("inline", [⟨"display", "inline"⟩]), ("flex", [⟨"display", "flex"⟩]),
    ("inline-flex", [⟨"display", "inline-flex"⟩]), ("grid", [⟨"display", "grid"⟩]),
    ("hidden", [⟨"display", "none"⟩]), ("flex-row", [⟨"flex-direction", "row"⟩]),
    ("flex-col", [⟨"flex-direction", "column"⟩]), ("flex-wrap", [⟨"flex-wrap", "wrap"⟩]),
    ("flex-1", [⟨"flex", "1 1 0%"⟩]), ("flex-auto", [⟨"flex", "1 1 auto"⟩]),
    ("flex-none", [⟨"flex", "none"⟩]), ("items-start", [⟨"align-items", "flex-start"⟩]),
    ("items-center", [⟨"align-items", "center"⟩]), ("items-end", [⟨"align-items", "flex-end"⟩]),
    ("justify-start", [⟨"justify-content", "flex-start"⟩]),
    ("justify-center", [⟨"justify-content", "center"⟩]),
    ("justify-end", [⟨"justify-content", "flex-end"⟩]),
    ("justify-between", [⟨"justify-content", "space-between"⟩]),
    ("justify-around", [⟨"justify-content", "space-around"⟩]),
    ("text-left", [⟨"text-align", "left"⟩]), ("text-center", [⟨"text-align", "center"⟩]),
    ("text-right", [⟨"text-align", "right"⟩]), ("text-justify", [⟨"text-align", "justify"⟩]),
    ("italic", [⟨"font-style", "italic"⟩]), ("not-italic", [⟨"font-style", "normal"⟩]),
    ("underline", [⟨"text-decoration", "underline"⟩]),
    ("line-through", [⟨"text-decoration", "line-through"⟩]),
    ("no-underline", [⟨"text-decoration", "none"⟩]),
    ("uppercase", [⟨"text-transform", "uppercase"⟩]),
    ("lowercase", [⟨"text-transform", "lowercase"⟩]),
    ("capitalize", [⟨"text-transform", "capitalize"⟩]),
    ("font-sans", [⟨"font-family", "ui-sans-serif, system-ui, sans-serif"⟩]),
    ("font-serif", [⟨"font-family", "ui-serif, Georgia, serif"⟩]),
    ("font-mono", [⟨"font-family", "ui-monospace, Menlo, monospace"⟩]),
    ("static", [⟨"position", "static"⟩]), ("relative", [⟨"position", "relative"⟩]),
    ("absolute", [⟨"position", "absolute"⟩]), ("fixed", [⟨"position", "fixed"⟩]),
    ("sticky", [⟨"position", "sticky"⟩]), ("overflow-hidden", [⟨"overflow", "hidden"⟩]),
    ("overflow-auto", [⟨"overflow", "auto"⟩]), ("overflow-scroll", [⟨"overflow", "scroll"⟩]),
    ("truncate", [⟨"overflow", "hidden"⟩, ⟨"text-overflow", "ellipsis"⟩, ⟨"white-space", "nowrap"⟩]),
    ("select-none", [⟨"user-select", "none"⟩]), ("cursor-pointer", [⟨"cursor", "pointer"⟩]),
    ("border", [⟨"border-width", "1px"⟩, ⟨"border-style", "solid"⟩]),
    ("rounded", [⟨"border-radius", "0.25rem"⟩]), ("rounded-none", [⟨"border-radius", "0px"⟩]),
    ("rounded-sm", [⟨"border-radius", "0.125rem"⟩]),
    ("rounded-md", [⟨"border-radius", "0.375rem"⟩]), ("rounded-lg", [⟨"border-radius", "0.5rem"⟩]),
    ("rounded-xl", [⟨"border-radius", "0.75rem"⟩]), ("rounded-2xl", [⟨"border-radius", "1rem"⟩]),
    ("rounded-full", [⟨"border-radius", "9999px"⟩]),
    ("shadow", [⟨"box-shadow", "0 1px 3px 0 rgba(0, 0, 0, 0.1), 0 1px 2px 0 rgba(0, 0, 0, 0.06)"⟩]),
    ("shadow-md", [⟨"box-shadow", "0 4px 6px -1px rgba(0, 0, 0, 0.1), 0 2px 4px -1px rgba(0, 0, 0, 0.06)"⟩]),
    ("shadow-lg", [⟨"box-shadow", "0 10px 15px -3px rgba(0, 0, 0, 0.1), 0 4px 6px -2px rgba(0, 0, 0, 0.05)"⟩]),
    ("shadow-xl", [⟨"box-shadow", "0 20px 25px -5px rgba(0, 0, 0, 0.1), 0 10px 10px -5px rgba(0, 0, 0, 0.04)"⟩]),
    ("shadow-none", [⟨"box-shadow", "none"⟩])]

/-- Font sizes with their line heights. -/
def fontSizes : List (String × String × String) :=
  [("xs", "0.75rem", "1rem"), ("sm", "0.875rem", "1.25rem"), ("base", "1rem", "1.5rem"),
    ("lg", "1.125rem", "1.75rem"), ("xl", "1.25rem", "1.75rem"), ("2xl", "1.5rem", "2rem"),
    ("3xl", "1.875rem", "2.25rem"), ("4xl", "2.25rem", "2.5rem"), ("5xl", "3rem", "1"),
    ("6xl", "3.75rem", "1"), ("7xl", "4.5rem", "1"), ("8xl", "6rem", "1"), ("9xl", "8rem", "1")]

def fontWeights : List (String × String) :=
  [("thin", "100"), ("extralight", "200"), ("light", "300"), ("normal", "400"), ("medium", "500"),
    ("semibold", "600"), ("bold", "700"), ("extrabold", "800"), ("black", "900")]

def lineHeights : List (String × String) :=
  [("none", "1"), ("tight", "1.25"), ("snug", "1.375"), ("normal", "1.5"), ("relaxed", "1.625"),
    ("loose", "2")]

def letterSpacings : List (String × String) :=
  [("tighter", "-0.05em"), ("tight", "-0.025em"), ("normal", "0em"), ("wide", "0.025em"),
    ("wider", "0.05em"), ("widest", "0.1em")]

def maxWidths : List (String × String) :=
  [("xs", "20rem"), ("sm", "24rem"), ("md", "28rem"), ("lg", "32rem"), ("xl", "36rem"),
    ("2xl", "42rem"), ("3xl", "48rem"), ("4xl", "56rem"), ("5xl", "64rem"), ("6xl", "72rem"),
    ("7xl", "80rem"), ("prose", "65ch")]

/-- Hue and saturation of the colors of the palette. -/
def palette : List (String × Nat × Nat) :=
  [("gray", 220, 13), ("red", 0, 84), ("orange", 25, 95), ("yellow", 45, 93), ("green", 142, 71),
    ("teal", 173, 80), ("blue", 217, 91), ("indigo", 239, 84), ("purple", 271, 91),
    ("pink", 330, 81)]

/-- The lightness of the shades of a color. -/
def shadeLightness : List (String × Nat) :=
  [("50", 97), ("100", 94), ("200", 86), ("300", 77), ("400", 66), ("500", 56), ("600", 47),
    ("700", 39), ("800", 31), ("900", 24)]

end DeckPress.Style
