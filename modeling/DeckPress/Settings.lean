import DeckPress.Disk.Path
import DeckPress.Number.Natural

/-!
# Settings from the environment

Environment variables give defaults for what the command line leaves open. A number that cannot be read
counts as not given.
-/

namespace DeckPress

/-- Settings of a program run. -/
structure Settings where
  entry : Path := ⟨"slides.md"⟩
  theme : Option String := none
  clientRoot : Option Path := none
  port : Nat := 3030
  /-- How long the server waits for further changes, in milliseconds. -/
  debounceMs : Nat := 300
  deriving Repr

/-- The settings in environment variables. -/
def Settings.ofEnvironment (read? : String → Option String) : Settings :=
  let d : Settings := {}
  let number (name : String) (bound : Nat) : Option Nat :=
    (read? name).bind fun s => readNatBelow? bound s.toList
  { entry := ((read? "SLIDEV_ENTRY").map Path.mk).getD d.entry
    theme := (read? "SLIDEV_THEME").filter (!·.isEmpty)
    clientRoot := (read? "SLIDEV_CLIENT_ROOT").map Path.mk
    port := (number "SLIDEV_PORT" (Nat.pow 2 16)).getD d.port
    debounceMs := (number "SLIDEV_DEBOUNCE_MS" (Nat.pow 2 64)).getD d.debounceMs }

end DeckPress
