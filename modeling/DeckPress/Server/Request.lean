import DeckPress.Server.Session
import DeckPress.Url.Parser

/-!
# Requests

The answers of a session to requests. The shared state is read, and changed by posting an update; whatever
else is asked for is served by its path. A failed file shows its error in place of its content.
-/

namespace DeckPress

/-- A request. -/
structure Request where
  /-- Whether something is posted. -/
  isPost : Bool
  /-- What is asked for, as sent. -/
  target : String
  body : ByteArray

/-- An answer. -/
structure Response where
  status : Nat
  contentType : String
  body : ByteArray

namespace Session

def plainText (status : Nat) (text : String) : Response := ⟨status, "text/plain", text.toUTF8⟩

/-- The shared state as it is shown to the slides. `name` is that of the session. -/
def snapshot (name : String) (s : SharedState) : String :=
  Json.text (.obj (Fields.ofList [("session", .str name), ("sync", .bool s.sync), ("state", s.json)]))

/-- The update that a body holds, or what is wrong with it. -/
def updateOf (body : ByteArray) : Except String Update :=
  match String.fromUTF8? body with
  | none => .error ("Failed to read body: " ++ IoError.invalidUtf8.message)
  | some text =>
    match (Json.parse? text).bind Update.ofTree? with
    | some u => .ok u
    | none => .error "Invalid state update: not a key with a value"

/-- Applies a posted update to the shared state. An update that is refused changes nothing. -/
def applyUpdate (s : SharedState) (body : ByteArray) : Except String SharedState := do
  let u ← updateOf body
  match s.applyClient u with
  | .ok (_, s) => return s
  | .error e => throw e.message

/-- Answers a request for the shared state. -/
def handleState (name : String) (r : Request) (s : SharedState) : Response × SharedState :=
  match if r.isPost then applyUpdate s r.body else .ok s with
  | .ok s => (⟨200, "application/json", (snapshot name s).toUTF8⟩, s)
  | .error text => (plainText 400 text, s)

/-- Whether a request is one for the shared state. -/
def asksForState (r : Request) (path : String) : Bool :=
  path = "/@server-ref/state.json" || (r.isPost && path = "/@server-ref/state")

/-- Answers a request. `name` is that of the session. -/
def handleRequest (d : Disk) (name : String) (r : Request) : StateM Session Response := do
  match Url.pathFromTop? r.target with
  | none => return plainText 400 "Bad request: not an address"
  | some path =>
    if asksForState r path then
      let s ← get
      let (response, shared) := handleState name r s.state.shared
      set { s with state := { s.state with shared } }
      return response
    else
      match ← (servePath d path).run with
      | .ok (some content) => return ⟨200, content.contentType, content.bytes⟩
      | .ok none => return plainText 404 "404 Not Found"
      | .error e => return plainText 500 e.message

end Session

end DeckPress
