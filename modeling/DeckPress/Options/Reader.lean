import DeckPress.Options.Basic
import DeckPress.Options.Source

/-!
# Reading options

Options files are JSON or YAML, which the extension of the file says. Unknown fields are passed over; a
known field with a value of another type makes the whole file invalid.
-/

namespace DeckPress

namespace Options

open Source

variable {τ : Type} [Source τ]

/-- A field that may be missing or null. -/
def field? {α : Type} (read : τ → Option α) (fields : List (String × τ)) (name : String) :
    Option (Option α) :=
  match fields.lookup name with
  | none => some none
  | some v => (isGiven? v).bind fun given => if given then (read v).map some else some none

/-- A section that may be missing. -/
def section? {α : Type} (read : τ → Option α) (fallback : α) (fields : List (String × τ))
    (name : String) : Option α :=
  match fields.lookup name with
  | none => some fallback
  | some v => read v

def path? (v : τ) : Option Path := (string? v).map Path.mk

def list? {α : Type} (read : τ → Option α) (v : τ) : Option (List α) :=
  (items? v).bind fun items => items.mapM read

/-- The extensions of component files. -/
def componentFiles? (v : τ) : Option (Option (List String)) := do
  field? (list? string?) (← record? ["include"] v) "include"

def markdown? (v : τ) : Option MarkdownOverrides := do
  let fields ← record?
    ["wrapperClasses", "headEnabled", "html", "linkify", "highlight", "monaco"] v
  return {
    wrapperClasses := ← field? string? fields "wrapperClasses"
    headEnabled := ← field? bool? fields "headEnabled"
    html := ← field? bool? fields "html"
    linkify := ← field? bool? fields "linkify"
    highlight := ← field? bool? fields "highlight"
    monaco := ← field? bool? fields "monaco" }

def components? (v : τ) : Option ComponentOverrides := do
  let fields ← record? ["extensions", "dirs", "deep"] v
  return {
    extensions := ← field? (list? string?) fields "extensions"
    dirs := ← field? (list? path?) fields "dirs"
    deep := ← field? bool? fields "deep" }

def icons? (v : τ) : Option IconOverrides := do
  let fields ← record? ["prefix", "defaultCollection", "collections"] v
  return {
    tagPrefix := ← field? string? fields "prefix"
    defaultCollection := ← field? string? fields "defaultCollection"
    collections := ← field? (list? string?) fields "collections" }

def assets? (v : τ) : Option AssetOverrides := do
  let fields ← record? ["enabled", "patterns", "cacheDir", "timeoutSecs", "retries"] v
  return {
    enabled := ← field? bool? fields "enabled"
    patterns := ← field? (list? string?) fields "patterns"
    cacheDir := ← field? path? fields "cacheDir"
    timeoutSecs := ← field? (natBelow? (Nat.pow 2 64)) fields "timeoutSecs"
    retries := ← field? (natBelow? (Nat.pow 2 32)) fields "retries" }

def style? (v : τ) : Option StyleOverrides := do
  let fields ← record? ["include", "exclude", "scanDirs", "configFiles"] v
  return {
    included := ← field? (list? string?) fields "include"
    excluded := ← field? (list? string?) fields "exclude"
    scanDirs := ← field? (list? path?) fields "scanDirs"
    configFiles := ← field? (list? path?) fields "configFiles" }

/-- All overrides of a project. -/
def overrides? (v : τ) : Option Overrides := do
  let fields ← record? ["theme", "clientRoot", "vue", "markdown", "components", "icons",
    "remoteAssets", "windicss"] v
  return {
    theme := ← field? string? fields "theme"
    clientRoot := ← field? path? fields "clientRoot"
    componentFiles := ← section? componentFiles? none fields "vue"
    markdown := ← section? markdown? {} fields "markdown"
    components := ← section? components? {} fields "components"
    icons := ← section? icons? {} fields "icons"
    assets := ← section? assets? {} fields "remoteAssets"
    style := ← section? style? {} fields "windicss" }

end Options

namespace Overrides

/-- Reads overrides from JSON text. -/
def ofJson? (text : String) : Option Overrides := (Json.parse? text).bind Options.overrides?

/-- Reads overrides from YAML text. -/
def ofYaml? (text : String) : Option Overrides :=
  (Yaml.parse? text.toList).bind fun d =>
    let d := d.getD { root := .empty }
    Options.overrides? (Yaml.View.mk d d.root)

/-- Reads an options file. -/
def load (d : Disk) (p : Path) : Except Error Overrides := do
  let text ← (d.readText p).mapError .read
  let read? := match p.extension with
    | "json" => some ofJson?
    | "yaml" | "yml" => some ofYaml?
    | _ => none
  match read? with
  | none => throw (.config (.optionsFormat p))
  | some read =>
    match read text with
    | some v => return v
    | none => throw (.config (.optionsFile p))

end Overrides

end DeckPress
