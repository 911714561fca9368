import DeckPress.Json.Parser

/-!
# Records in JSON

A record is an object with certain fields. Other fields are passed over, but each field of the record may
stand only once. An array also stands for a record, with the values of the fields in their order; the
last ones may be missing.
-/

namespace DeckPress.Json.Tree

/-- The fields of a record that are present. -/
def record? (names : List String) : Tree → Option (List (String × Tree))
  | .obj fields =>
    let known := fields.filter fun f => names.contains f.1
    if (known.map (·.1)).Nodup then some known else none
  | .arr items => if items.length ≤ names.length then some (names.zip items) else none
  | _ => none

def string? : Tree → Option String
  | .str s => some s
  | _ => none

def bool? : Tree → Option Bool
  | .bool b => some b
  | _ => none

/-- A natural number below a bound. -/
def natBelow? (bound : Nat) : Tree → Option Nat
  | .int n => if 0 ≤ n ∧ n < bound then some n.toNat else none
  | _ => none

def items? : Tree → Option (List Tree)
  | .arr items => some items
  | _ => none

/-- An object whose values are of one kind. Of equal keys the last counts. -/
def table? {α : Type} (read : Tree → Option α) : Tree → Option (List (String × α))
  | .obj fields => do
    let pairs ← fields.mapM fun (k, v) => (read v).map (k, ·)
    return pairs.foldl (fun acc p => insertSorted p.1 p.2 acc) []
  | _ => none

end DeckPress.Json.Tree
