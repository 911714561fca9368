import DeckPress.Json.Record
import DeckPress.Yaml.Scalar

/-!
# Sources of options

Options are read from JSON or from YAML. Both give trees of values; a source says how a tree is seen as a
text, a truth value, a number, a list or a record. In JSON every value has its type. In YAML any scalar is
a text, and truth values and numbers are plain scalars, or literal ones whose tag says so.
-/

namespace DeckPress.Options

/-- A tree that options can be read from. -/
class Source (τ : Type) where
  /-- Whether something is given; none if the tree contradicts itself. -/
  isGiven? : τ → Option Bool
  string? : τ → Option String
  bool? : τ → Option Bool
  /-- A natural number below a bound. -/
  natBelow? : Nat → τ → Option Nat
  items? : τ → Option (List τ)
  /-- The fields of a record with these names that are present. -/
  record? : List String → τ → Option (List (String × τ))

open Source

instance : Source Json.Tree where
  isGiven? t := match t with
    | .null => some false
    | _ => some true
  string? := Json.Tree.string?
  bool? := Json.Tree.bool?
  natBelow? := Json.Tree.natBelow?
  items? := Json.Tree.items?
  record? := Json.Tree.record?

end DeckPress.Options

namespace DeckPress.Yaml

/-- A node in its document. Aliases count as what they stand for. -/
structure View where
  document : Document
  node : Node

namespace View

/-- The node that is seen. -/
def target (v : View) : Node := (v.document.target? v.node).getD .empty

/-- The text of a scalar that may be a truth value or a number: it is plain, or a literal whose tag says
so. -/
def literal? (kind : CoreType) (v : View) : Option String :=
  match v.target with
  | .scalar text .plain _ => some text
  | .scalar text .literal (some tag) => if tag.core? = some kind then some text else none
  | _ => none

/-- Whether a node stands for something. A plain scalar is nothing if it is empty or null; with the tag of
null it must be null. -/
def isGiven? (v : View) : Option Bool :=
  match v.target with
  | .scalar text .plain none => some (!text.isEmpty && !null? text)
  | .scalar text .plain (some tag) =>
    if tag.core? = some .null then if null? text then some false else none else some true
  | _ => some true

/-- Nothing at all, as where no value is written. -/
def isAbsent (v : View) : Bool :=
  match v.target with
  | .scalar text .plain _ => text.isEmpty
  | _ => false

/-- The text of a scalar. -/
def string? (v : View) : Option String :=
  match v.target with
  | .scalar text _ _ => some text
  | _ => none

/-- A natural number below a bound. -/
def natBelow? (bound : Nat) (v : View) : Option Nat :=
  ((v.literal? .int).bind fun s => unsigned? s.toList).filter (· < bound)

/-- The items of a sequence. -/
def items? (v : View) : Option (List View) :=
  match v.target with
  | .seq items _ => some (items.map (⟨v.document, ·⟩))
  | _ => if v.isAbsent then some [] else none

/-- The fields of a record that are present, each once. Keys must be scalars. -/
def record? (names : List String) (v : View) : Option (List (String × View)) :=
  match v.target with
  | .map fields _ => do
    let pairs ← fields.mapM fun (key, value) =>
      (View.mk v.document key).string?.map (·, View.mk v.document value)
    let known := pairs.filter fun f => names.contains f.1
    if (known.map (·.1)).Nodup then some known else none
  | _ => if v.isAbsent then some [] else none

end View

end DeckPress.Yaml

namespace DeckPress.Options

instance : Source Yaml.View where
  isGiven? := Yaml.View.isGiven?
  string? := Yaml.View.string?
  bool? v := (v.literal? .bool).bind Yaml.bool?
  natBelow? := Yaml.View.natBelow?
  items? := Yaml.View.items?
  record? := Yaml.View.record?

end DeckPress.Options
