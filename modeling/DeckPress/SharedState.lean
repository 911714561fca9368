import DeckPress.Error
import DeckPress.Json.Record

/-!
# Shared state

A session shares a few numbers between the server and the running slides: the page and the tab. The keys
are fixed. When the session is synchronized, every change is applied on the server and handed on to all
subscribers; otherwise changes from the slides are ignored. Each subscriber has a queue of its own. One that
goes away is only noticed when the next update is to be handed to it.
-/

namespace DeckPress

/-- A change of one value. -/
structure Update where
  key : String
  value : Nat
  deriving DecidableEq, Repr

/-- Reads an update from JSON. Both fields must be there. -/
def Update.ofTree? (t : Json.Tree) : Option Update := do
  let fields ← t.record? ["key", "value"]
  let key ← (← fields.lookup "key").string?
  let value ← (← fields.lookup "value").natBelow? (Nat.pow 2 64)
  return { key, value }

/-- A subscriber and its queue. -/
structure Subscriber where
  number : Nat
  /-- Whether it still takes updates. -/
  listening : Bool := true
  /-- The updates that wait for it. -/
  pending : List Update := []
  deriving DecidableEq, Repr

/-- Whether a subscriber is the one with a number, and still there. -/
def Subscriber.isAt (n : Nat) (b : Subscriber) : Bool := b.listening && b.number = n

/-- Hands an update to a subscriber; none if it has gone away. -/
def Subscriber.send? (b : Subscriber) (u : Update) : Option Subscriber :=
  if b.listening then some { b with pending := b.pending ++ [u] } else none

/-- The state of a session. -/
structure SharedState where
  /-- Whether changes are applied on the server and handed on. -/
  sync : Bool
  /-- The values by key, in ascending order of the keys. -/
  values : List (String × Nat)
  /-- The subscribers, the oldest first, with some that have gone away since. -/
  subscribers : List Subscriber := []
  /-- How many subscribers there have been. -/
  subscribed : Nat := 0
  deriving DecidableEq, Repr

namespace SharedState

/-- The keys of every session, with the values it starts with. -/
def schema : List (String × Nat) := [("page", 0), ("tab", 0)]

/-- The state at the start of a session. -/
def initial (sync : Bool) : SharedState := { sync, values := schema }

def get? (s : SharedState) (key : String) : Option Nat := s.values.lookup key

/-- Sets the value of a key that is there. -/
def replaceIn (u : Update) (values : List (String × Nat)) : List (String × Nat) :=
  values.map fun (k, v) => if k = u.key then (k, u.value) else (k, v)

/-- Changes a value; only keys of the schema can be changed. -/
def replace (s : SharedState) (u : Update) : Except Error SharedState :=
  if (s.get? u.key).isSome then .ok { s with values := replaceIn u s.values }
  else .error (.validation (.unknownKey u.key))

/-- Hands an update on to every subscriber, and forgets those that have gone away. -/
def broadcast (s : SharedState) (u : Update) : SharedState :=
  { s with subscribers := s.subscribers.filterMap (·.send? u) }

/-- A change by the server. -/
def set (s : SharedState) (u : Update) : Except Error SharedState := do
  let s ← s.replace u
  return if s.sync then s.broadcast u else s

/-- A change by the slides. It is applied only when the session is synchronized, which the answer says. -/
def applyClient (s : SharedState) (u : Update) : Except Error (Bool × SharedState) := do
  if !s.sync then return (false, s)
  let s ← s.replace u
  return (true, s.broadcast u)

/-- Adds a subscriber; the answer is its number. -/
def subscribe (s : SharedState) : Nat × SharedState :=
  (s.subscribed, { s with
    subscribers := s.subscribers ++ [{ number := s.subscribed }]
    subscribed := s.subscribed + 1 })

/-- A subscriber goes away, and what waits for it is lost. -/
def unsubscribe (s : SharedState) (n : Nat) : SharedState :=
  { s with subscribers := s.subscribers.map fun b =>
      if b.number = n then { b with listening := false, pending := [] } else b }

/-- The updates that wait for a subscriber; none if it is not there. -/
def pending? (s : SharedState) (n : Nat) : Option (List Update) :=
  (s.subscribers.find? (·.isAt n)).map (·.pending)

/-- Takes the updates that wait for a subscriber; none if it is not there. -/
def drain (s : SharedState) (n : Nat) : Option (List Update) × SharedState :=
  (s.pending? n, { s with subscribers := s.subscribers.map fun b =>
      if b.number = n then { b with pending := [] } else b })

/-- The values as a JSON object. -/
def json (s : SharedState) : Json := .obj (s.values.map fun (k, v) => (k, .int v))

/-- The module that gives the slides access to the state. -/
def moduleCode (s : SharedState) : String :=
  "import \x7b reactive \x7d from 'vue'\n" ++
  "export const sync = " ++ (if s.sync then "true" else "false") ++ "\n" ++
  "export const state = reactive(" ++ s.json.text ++ ")\n" ++
  "export default state\n"

end SharedState

end DeckPress
