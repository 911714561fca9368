import DeckPress.Number.Binary64

/-!
# JSON values

A number is a natural number, a negative integer or a binary64 number, told apart by how it was
written. An object is kept as an association list in ascending order of its keys, each key once;
`Json.insert` keeps it so.
-/

namespace DeckPress

/-- A JSON value. -/
inductive Json where
  | null
  | bool (b : Bool)
  | int (n : Int)
  | float (x : Binary64)
  | str (s : String)
  | arr (items : List Json)
  | obj (fields : List (String × Json))
  deriving Repr, Inhabited

/-- The fields of an object, in ascending order of their keys. -/
abbrev Fields := List (String × Json)

/-- Sets a key in a list sorted by keys. A key already there gets the new value. -/
def insertSorted {α : Type} (key : String) (value : α) : List (String × α) → List (String × α)
  | [] => [(key, value)]
  | (k, v) :: rest =>
    if key < k then (key, value) :: (k, v) :: rest
    else if key = k then (key, value) :: rest
    else (k, v) :: insertSorted key value rest

namespace Fields

def insert (fields : Fields) (key : String) (value : Json) : Fields := insertSorted key value fields

def get? (fields : Fields) (key : String) : Option Json := fields.lookup key

/-- Collects pairs; of two with one key the later counts. -/
def ofList (pairs : List (String × Json)) : Fields :=
  pairs.foldl (fun fields p => insert fields p.1 p.2) []

/-- Sets every key of `winning` in `fields`. -/
def override (fields winning : Fields) : Fields :=
  winning.foldl (fun acc p => insert acc p.1 p.2) fields

end Fields

namespace Json

def str? : Json → Option String
  | .str s => some s
  | _ => none

def bool? : Json → Option Bool
  | .bool b => some b
  | _ => none

def arr? : Json → Option (List Json)
  | .arr items => some items
  | _ => none

end Json

end DeckPress
