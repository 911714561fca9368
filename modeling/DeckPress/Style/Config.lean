import DeckPress.Disk.Basic
import DeckPress.Json.Record
import DeckPress.Style.Rule

/-!
# Configuration of utility classes

Shortcuts and colors come from JSON files. Of entries with one name that of the later file counts. A file
that does not have the form of a configuration is passed over.
-/

namespace DeckPress.Style

open Json

namespace Theme

/-- Adds to the vocabulary; new entries win. -/
def extend (t u : Theme) : Theme where
  shortcuts := u.shortcuts.foldl (fun acc p => insertSorted p.1 p.2 acc) t.shortcuts
  colors := u.colors.foldl (fun acc p => insertSorted p.1 p.2 acc) t.colors

/-- A field of a record, or what counts where it is missing. -/
def fieldOr {α : Type} (fields : List (String × Tree)) (name : String) (fallback : α)
    (read : Tree → Option α) : Option α :=
  match fields.lookup name with
  | some v => read v
  | none => some fallback

/-- Reads a configuration. -/
def ofTree? (t : Tree) : Option Theme := do
  let fields ← t.record? ["shortcuts", "theme"]
  let shortcuts ← fieldOr fields "shortcuts" [] (Tree.table? Tree.string?)
  let colors ← fieldOr fields "theme" [] fun theme => do
    let fields ← theme.record? ["colors"]
    fieldOr fields "colors" [] (Tree.table? Json.ofTree?)
  return { shortcuts, colors }

/-- The vocabulary of configuration files. -/
def load (d : Disk) (files : List Path) : Theme :=
  (files.filter d.isFile).foldl (fun theme file =>
    match (d.readText file).toOption.bind fun text => (parse? text).bind ofTree? with
    | some more => theme.extend more
    | none => theme) {}

end Theme

end DeckPress.Style
