import DeckPress.Disk.Path
import DeckPress.Number.Natural
import DeckPress.Text.Basic

/-!
# Arguments

The command line names a command, and behind it the options of that command. An option has a long name
and perhaps a letter; its value follows as an argument of its own or behind an equals sign, and a value
may also stand directly behind a letter. Each option may be given once. Behind two hyphens there are no
options.
-/

namespace DeckPress.CommandLine

open Text

/-- What all commands are told about the deck. -/
structure DeckArguments where
  entry : Option Path := none
  theme : Option String := none
  options : Option Path := none
  deriving Repr

/-- A command with its arguments. -/
inductive Command where
  | build (deck : DeckArguments) (out : Path)
  /-- Shows one generated module. -/
  | module (deck : DeckArguments) (id : String)
  | dev (deck : DeckArguments) (port debounceMs : Option Nat) (sync : Bool)
  deriving Repr

/-- What a run is asked for. -/
inductive Invocation where
  | command (c : Command)
  | nothing
  | help
  | version
  deriving Repr

/-- What the value of an option must be. -/
inductive ValueKind where
  /-- The option takes no value. -/
  | switch
  | text
  /-- A text that is not empty. -/
  | path
  /-- A number below a bound. -/
  | number (bound : Nat)
  /-- The number of a port. -/
  | port
  deriving DecidableEq, Repr

/-- The number of a port, below 2^16. Zero may have a minus sign. -/
def readPort? (s : String) : Option Nat :=
  match s.toList with
  | '-' :: zeros => if !zeros.isEmpty && zeros.all (· = '0') then some 0 else none
  | digits => readNatBelow? (Nat.pow 2 16) digits

/-- An option. -/
structure Flag where
  name : String
  letter : Option Char := none
  kind : ValueKind
  deriving DecidableEq, Repr

/-- Whether a text can be the value of an option. -/
def ValueKind.accepts : ValueKind → String → Bool
  | .switch, _ => false
  | .text, _ => true
  | .path, v => !v.isEmpty
  | .number bound, v => (readNatBelow? bound v.toList).isSome
  | .port, v => (readPort? v).isSome

def deckFlags : List Flag :=
  [⟨"entry", some 'e', .path⟩, ⟨"theme", none, .text⟩, ⟨"options", none, .path⟩]

def buildFlags : List Flag := deckFlags ++ [⟨"out", some 'o', .path⟩]

def devFlags : List Flag :=
  deckFlags ++ [⟨"port", some 'p', .port⟩, ⟨"debounce-ms", none, .number (Nat.pow 2 64)⟩,
    ⟨"sync", none, .switch⟩]

/-- The arguments of a command as read: values by the names of options, and the others. -/
structure Given where
  values : List (String × String) := []
  others : List String := []
  deriving Repr

namespace Given

def value? (g : Given) (name : String) : Option String := g.values.lookup name

def path? (g : Given) (name : String) : Option Path := (g.value? name).map Path.mk

def number? (g : Given) (name : String) (bound : Nat) : Option Nat :=
  (g.value? name).bind fun v => readNatBelow? bound v.toList

def deck (g : Given) : DeckArguments where
  entry := g.path? "entry"
  theme := g.value? "theme"
  options := g.path? "options"

/-- Sets an option; none if it is given already or the value is not one for it. -/
def set? (g : Given) (f : Flag) (value : String) : Option Given :=
  if (g.value? f.name).isSome || !f.kind.accepts value then none
  else some { g with values := (f.name, value) :: g.values }

/-- Sets a switch. -/
def switchOn? (g : Given) (f : Flag) : Option Given :=
  if (g.value? f.name).isSome then none else some { g with values := (f.name, "") :: g.values }

end Given

/-- How one argument starts. -/
inductive Shape where
  /-- Two hyphens and nothing else. -/
  | endOfOptions
  | long (name : String) (value : Option String)
  | short (letter : Char) (value : Option String)
  | other
  deriving DecidableEq, Repr

/-- A text behind an equals sign, if there is one. -/
def afterEquals (s : List Char) : String :=
  match s with
  | '=' :: v => String.ofList v
  | _ => String.ofList s

/-- Tells options from other arguments. A single hyphen is no option. -/
def Shape.of (argument : String) : Shape :=
  match argument.toList with
  | ['-', '-'] => .endOfOptions
  | '-' :: '-' :: s =>
    match splitAt? ['='] s with
    | some (name, value) => .long (String.ofList name) (some (String.ofList value))
    | none => .long (String.ofList s) none
  | '-' :: c :: s => .short c (if s.isEmpty then none else some (afterEquals s))
  | _ => .other

/-- The outcome of reading arguments: what is given, a request for help, or a mistake. -/
inductive Reading where
  | given (g : Given)
  | help
  | mistake

/-- Reads one option, whose value may be the argument behind it. The number tells how many of the
arguments behind it are used up. -/
def readFlag? (f : Flag) (value : Option String) (rest : List String) (g : Given) :
    Option (Given × Nat) :=
  match f.kind, value with
  | .switch, none => (g.switchOn? f).map (·, 0)
  | .switch, some _ => none
  | _, some v => (g.set? f v).map (·, 0)
  | _, none =>
    match rest with
    | v :: _ => if Shape.of v = .other then (g.set? f v).map (·, 1) else none
    | [] => none

/-- Reads the arguments of a command. `most` is how many may be no options. -/
def readArguments (flags : List Flag) (most : Nat) (g : Given) : List String → Reading
  | [] => .given g
  | argument :: rest =>
    let option (f : Option Flag) (value : Option String) : Reading :=
      match f.bind fun f => readFlag? f value rest g with
      | some (g, used) => readArguments flags most g (rest.drop used)
      | none => .mistake
    match Shape.of argument with
    | .endOfOptions =>
      if (g.others ++ rest).length ≤ most then .given { g with others := g.others ++ rest } else .mistake
    | .long "help" none => .help
    | .short 'h' _ => .help
    | .long name value => option (flags.find? (·.name = name)) value
    | .short letter value => option (flags.find? (·.letter = some letter)) value
    | .other =>
      if g.others.length < most then
        readArguments flags most { g with others := g.others ++ [argument] } rest
      else .mistake
termination_by arguments => arguments.length
decreasing_by all_goals simp only [List.length_cons, List.length_drop]; omega

/-- The command that arguments ask for. -/
def Reading.toInvocation (r : Reading) (command : Given → Option Command) : Option Invocation :=
  match r with
  | .given g => (command g).map .command
  | .help => some .help
  | .mistake => none

/-- Reads the arguments behind the name of a command. -/
def readCommand? (name : String) (rest : List String) : Option Invocation :=
  match name with
  | "build" =>
    (readArguments buildFlags 0 {} rest).toInvocation fun g =>
      some (.build g.deck ((g.path? "out").getD ⟨"dist"⟩))
  | "module" =>
    (readArguments deckFlags 1 {} rest).toInvocation fun g => g.others.head?.map (.module g.deck)
  | "dev" =>
    (readArguments devFlags 0 {} rest).toInvocation fun g =>
      some (.dev g.deck ((g.value? "port").bind readPort?) (g.number? "debounce-ms" (Nat.pow 2 64))
        (g.value? "sync").isSome)
  | _ => none

/-- The names that help can be asked for. -/
def commandNames : List String := ["build", "module", "dev", "help"]

/-- Reads a command line; none if it is mistaken. -/
def Invocation.parse? : List String → Option Invocation
  | [] => some .nothing
  | "--" :: rest => if rest.isEmpty then some .nothing else none
  | first :: rest =>
    match Shape.of first with
    | .long "help" none => some .help
    | .short 'h' _ => some .help
    | .long "version" none => some .version
    | .short 'V' _ => some .version
    | .other =>
      if first = "help" then
        match rest with
        | [] => some .help
        | [name] => if commandNames.contains name then some .help else none
        | _ => none
      else readCommand? first rest
    | _ => none

end DeckPress.CommandLine
