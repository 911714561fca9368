import DeckPress.Yaml.Node
import DeckPress.Number.Decimal
import DeckPress.Json.Value

/-!
# The values of YAML scalars

A plain scalar is null, a truth value, an integer or a float if it is spelt like one, otherwise text.
Integers may be written in hexadecimal, octal and binary. Digits behind a leading zero are text, not a
number. Any other scalar is text unless its tag says otherwise.
-/

namespace DeckPress.Yaml

open Text

def null? (s : String) : Bool := ["null", "Null", "NULL", "~"].contains s

def bool? (s : String) : Option Bool :=
  if ["true", "True", "TRUE"].contains s then some true
  else if ["false", "False", "FALSE"].contains s then some false
  else none

/-- The value of a digit in bases up to 16. -/
def digitIn? (base : Nat) (c : Char) : Option Nat :=
  (hexDigit? c).filter (· < base)

/-- The value of a non-empty run of digits. -/
def natIn? (base : Nat) (s : List Char) : Option Nat :=
  if s.isEmpty then none
  else s.foldl (fun acc c => do return (← acc) * base + (← digitIn? base c)) (some 0)

/-- A sign, then zeros and digits only: a number for the eye, but text for YAML. -/
def leadingZero (s : List Char) : Bool :=
  let s := match s with
    | '-' :: r => r
    | '+' :: r => r
    | _ => s
  match s with
  | '0' :: r => !r.isEmpty && r.all isAsciiDigit
  | _ => false

/-- The base a digit run declares by `0x`, `0o` or `0b`, and the digits. -/
def withBase? : List Char → Option (Nat × List Char)
  | '0' :: 'x' :: r => some (16, r)
  | '0' :: 'o' :: r => some (8, r)
  | '0' :: 'b' :: r => some (2, r)
  | _ => none

/-- An integer without minus sign. -/
def unsigned? (s : List Char) : Option Nat :=
  let body := match s with
    | '+' :: r => r
    | _ => s
  match withBase? body with
  | some (base, ds) => natIn? base ds
  | none => if leadingZero s then none else natIn? 10 body

/-- The absolute value of an integer with minus sign. -/
def negated? : List Char → Option Nat
  | '-' :: r =>
    match withBase? r with
    | some (base, ds) => natIn? base ds
    | none => if leadingZero r then none else natIn? 10 r
  | _ => none

/-- An integer of at most 128 bits. A longer run of digits is no integer, but may be a float. -/
def int? (s : List Char) : Option Int :=
  match unsigned? s with
  | some n => if n < Nat.pow 2 128 then some n else none
  | none => (negated? s).bind fun n => if n ≤ Nat.pow 2 127 then some (-(n : Int)) else none

/-- A float: decimal text within the range of the format, or one of the words for infinity and
not-a-number. -/
def float? (s : List Char) : Option Binary64 :=
  let body := match s with
    | '+' :: r => r
    | _ => s
  if ['+', '-'].contains (body.headD ' ') && s.head? = some '+' then none
  else if [".inf", ".Inf", ".INF"].contains (String.ofList body) then some (.infinite false)
  else if ["-.inf", "-.Inf", "-.INF"].contains (String.ofList s) then some (.infinite true)
  else if [".nan", ".NaN", ".NAN"].contains (String.ofList s) then some .nan
  else (Decimal.read? body).map Decimal.toBinary64 |>.filter Binary64.isFinite

/-- What an untagged plain scalar stands for. -/
inductive Plain where
  | null
  | bool (b : Bool)
  | int (n : Int)
  | float (x : Binary64)
  | text
  deriving Repr

/-- Decides what a plain scalar stands for. -/
def Plain.of (s : String) : Plain :=
  if s.isEmpty || null? s then .null
  else
    match bool? s with
    | some b => .bool b
    | none =>
      match int? s.toList with
      | some n => .int n
      | none =>
        if leadingZero s.toList then .text
        else
          match float? s.toList with
          | some x => .float x
          | none => .text

/-- JSON integers fit 64 bits, unsigned or signed. -/
def jsonInt? (n : Int) : Option Json :=
  if -(Nat.pow 2 63 : Nat) ≤ n ∧ n < Nat.pow 2 64 then some (.int n) else none

/-- The JSON value of an untagged plain scalar. -/
def plainJson? (s : String) : Option Json :=
  match Plain.of s with
  | .null => some .null
  | .bool b => some (.bool b)
  | .int n => jsonInt? n
  | .float x => some (if x.isFinite then .float x else .null)
  | .text => some (.str s)

/-- The types of scalars that a tag can demand. -/
inductive CoreType where
  | bool | int | float | null
  deriving DecidableEq, Repr

/-- The type that a tag demands. -/
def Tag.core? (t : Tag) : Option CoreType :=
  if !t.isText then none
  else
    [("tag:yaml.org,2002:bool", .bool), ("tag:yaml.org,2002:int", .int),
      ("tag:yaml.org,2002:float", .float), ("tag:yaml.org,2002:null", .null)].lookup t.text

/-- Whether a tag belongs to an application. -/
def Tag.isLocal (t : Tag) : Bool := t.text.startsWith "!"

/-- Whether a tag names a case of a type of an application. JSON has none. -/
def Tag.namesCase (t : Tag) : Bool := t.isLocal && t.isText

/-- The JSON value of a scalar. A tag of the core types demands text of its kind; a local tag is
refused if it is text, and otherwise changes nothing. -/
def scalarJson? (text : String) (style : Style) (tag : Option Tag) : Option Json :=
  let untagged := if style = .plain then plainJson? text else some (.str text)
  match tag with
  | none => untagged
  | some tag =>
    if tag.namesCase then none
    else
      match tag.core? with
      | some .bool => (bool? text).map .bool
      | some .int => (int? text.toList).bind jsonInt?
      | some .float => (float? text.toList).map fun x => if x.isFinite then .float x else .null
      | some .null => if null? text then some .null else none
      | none => if tag.isLocal then untagged else some (.str text)

/-- How deep collections may nest. -/
def maxDepth : Nat := 128

namespace Document

/-- What a node stands for, with the number of aliases that may still be followed. -/
def follow? (d : Document) (left : Nat) (node : Node) : Option (Node × Nat) :=
  match node with
  | .alias _ => if left = 0 then none else (d.target? node).map (·, left - 1)
  | _ => some (node, left)

/-- The JSON values of items. `value` reads one of them; it is told how many aliases may still be followed
and says how many of them remain. -/
def jsonItems? (value : Nat → Node → Option (Json × Nat)) (left : Nat) :
    List Node → Option (List Json × Nat)
  | [] => some ([], left)
  | node :: rest =>
    match value left node with
    | none => none
    | some (v, left) => (jsonItems? value left rest).map fun (vs, left) => (v :: vs, left)

/-- The JSON values of fields, which `value` reads. Keys must be scalars, whose text counts. -/
def jsonFields? (d : Document) (value : Nat → Node → Option (Json × Nat)) (left : Nat) :
    List (Node × Node) → Option (List (String × Json) × Nat)
  | [] => some ([], left)
  | (key, node) :: rest =>
    match d.follow? left key with
    | some (.scalar key _ _, left) =>
      match value left node with
      | none => none
      | some (v, left) =>
        (d.jsonFields? value left rest).map fun (fs, left) => ((key, v) :: fs, left)
    | _ => none

/-- The JSON value of a node, for which at most `left` aliases are followed, and how many of them remain.
Of equal keys the last wins. -/
def json? (d : Document) (depth left : Nat) (node : Node) : Option (Json × Nat) :=
  match d.follow? left node with
  | none => none
  | some (node, left) =>
    match node, depth with
    | .scalar text style tag, _ => (scalarJson? text style tag).map (·, left)
    | .seq items tag, depth + 1 =>
      if tag.any (·.namesCase) then none
      else (jsonItems? (d.json? depth) left items).map fun (vs, left) => (.arr vs, left)
    | .map fields tag, depth + 1 =>
      if tag.any (·.namesCase) then none
      else
        (d.jsonFields? (d.json? depth) left fields).map fun (fs, left) =>
          (.obj (Fields.ofList fs), left)
    | _, _ => none

/-- The JSON value of a document. A hundred times as many aliases as the document has marks may be
followed; a document that needs more is refused, since its value would be out of all proportion. -/
def toJson? (d : Document) : Option Json := (d.json? maxDepth (100 * d.root.size) d.root).map (·.1)

end Document

/-- Reads a text as a JSON value; a text without document is null. -/
def toJson? (text : List Char) : Option Json :=
  match parse? text with
  | none => none
  | some none => some .null
  | some (some d) => d.toJson?

end DeckPress.Yaml
