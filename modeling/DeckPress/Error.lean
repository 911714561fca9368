import DeckPress.Disk.Basic
import DeckPress.Json.Printer
import DeckPress.Text.Quoted

/-!
# What can go wrong

An error says in which part of the work it arose and for what cause; its wording is computed from that.
Errors of the project's layout and of references between modules stop a build. All others belong to one
file, and its neighbours are still built. A problem that only costs a feature of one file, a missing
component or asset, is a degradation and no error.
-/

namespace DeckPress

open Text

/-- Why front matter is refused. -/
inductive FrontMatterFault where
  | notYaml
  | notMapping (found : Json)
  deriving Repr

/-- Why one file does not compile. -/
inductive CompileFault where
  | unreadable (cause : IoError)
  /-- A code fence opened on this line, counted from 1, and not closed. -/
  | openFence (line : Nat)
  | openFrontMatter
  | frontMatter (fault : FrontMatterFault)
  /-- Front matter of the slide that starts on this line, counted from 1. -/
  | slideFrontMatter (line : Nat) (fault : FrontMatterFault)
  | openInterpolation
  deriving Repr

/-- Why a generated module cannot be provided. -/
inductive ResolutionFault where
  /-- The slide with this number, counted from 1 with hidden slides, has its text in a missing file. -/
  | missingSource (slide : Nat) (path : Path)
  | missingSetup (path : Path)
  | noSlide (number : Nat)
  | notGenerated
  deriving Repr

/-- Why a path or a value given from outside is refused. -/
inductive ValidationFault where
  | notFile (path : Path)
  | notDirectory (path : Path)
  | notWritable (path : Path) (cause : IoError)
  | noAbsolutePath (path : Path) (cause : IoError)
  | unknownKey (key : String)
  | offline (url : String)
  deriving Repr

/-- Why a deck entry cannot be used. -/
inductive EntryFault where
  | missing (path : Path)
  | notFile (path : Path)
  deriving Repr

/-- Why a project cannot be set up. -/
inductive ConfigFault where
  | entry (fault : EntryFault)
  | headmatter (fault : FrontMatterFault)
  | themeDirectory (path : Path)
  | theme (name : String) (deckRoot : Path)
  | clientDirectory (path : Path)
  | client (deckRoot : Path)
  | optionsFile (path : Path)
  | optionsFormat (path : Path)
  | glob (text : String)
  | pattern (text : String)
  deriving Repr

/-- An error, by the part of the work it belongs to. -/
inductive Error where
  | read (cause : IoError)
  | config (fault : ConfigFault)
  | compile (file : String) (fault : CompileFault)
  | resolution (id : String) (fault : ResolutionFault)
  | pathNotFound (path : Path)
  | validation (fault : ValidationFault)
  deriving Repr

/-- A path as messages show it. -/
def Path.shown (p : Path) : String := quoted p.text

def FrontMatterFault.message : FrontMatterFault → String
  | .notYaml => "the text is not YAML"
  | .notMapping found => "front matter must be a mapping, found " ++ found.text

def CompileFault.message : CompileFault → String
  | .unreadable cause => cause.message
  | .openFence line => "unterminated code fence starting at line " ++ toString line
  | .openFrontMatter => "unterminated front matter"
  | .frontMatter fault => "invalid front matter: " ++ fault.message
  | .slideFrontMatter line fault =>
    "invalid front matter at line " ++ toString line ++ ": " ++ fault.message
  | .openInterpolation => "unterminated \x7b\x7b interpolation in template"

def ResolutionFault.message : ResolutionFault → String
  | .missingSource slide path =>
    "slide " ++ toString slide ++ " references missing file " ++ path.shown
  | .missingSetup path => "setup file not found: " ++ path.shown
  | .noSlide number => "no slide " ++ toString number
  | .notGenerated => "not a virtual module"

def ValidationFault.message : ValidationFault → String
  | .notFile path => "Path is not a file: " ++ path.shown
  | .notDirectory path => "Path exists but is not a directory: " ++ path.shown
  | .notWritable path cause =>
    "Directory is not writable: " ++ path.shown ++ " - " ++ cause.message
  | .noAbsolutePath path cause =>
    "Failed to get absolute path for " ++ path.shown ++ ": " ++ cause.message
  | .unknownKey key => "Unknown shared state key: " ++ key
  | .offline url => "offline: " ++ url

/-- The package that holds the client runtime. -/
def clientPackage : String := "node_modules/@slidev/client"

/-- What the two faults of an entry are when they arise elsewhere. -/
def EntryFault.error : EntryFault → Error
  | .missing path => .pathNotFound path
  | .notFile path => .validation (.notFile path)

def EntryFault.message : EntryFault → String
  | .missing path => "Path not found: " ++ path.text
  | .notFile path => "Input validation error: " ++ (ValidationFault.notFile path).message

def ConfigFault.message : ConfigFault → String
  | .entry fault => "Invalid deck entry: " ++ fault.message
  | .headmatter fault => "Invalid deck headmatter: " ++ fault.message
  | .themeDirectory path => "Theme directory not found: " ++ path.shown
  | .theme name root => "Theme \"" ++ name ++ "\" could not be found from " ++ root.shown
  | .clientDirectory path => "Client runtime directory not found: " ++ path.shown
  | .client root => "Client runtime " ++ clientPackage ++ " could not be found from " ++ root.shown
  | .optionsFile path => "Invalid options file " ++ path.shown ++ ": not a set of options"
  | .optionsFormat path => "Unsupported options file format: " ++ path.shown
  | .glob text => "Invalid glob pattern: " ++ text
  | .pattern text => "Invalid pattern: " ++ text

/-- The wording of an error. -/
def Error.message : Error → String
  | .read cause => "Failed to read file: " ++ cause.message
  | .config fault => "Configuration error: " ++ fault.message
  | .compile file fault => "Failed to compile " ++ file ++ ": " ++ fault.message
  | .resolution id fault => "Failed to resolve " ++ id ++ ": " ++ fault.message
  | .pathNotFound path => "Path not found: " ++ path.text
  | .validation fault => "Input validation error: " ++ fault.message

/-- Whether an error stops a whole build. -/
def Error.isFatal : Error → Bool
  | .config _ => true
  | .resolution _ _ => true
  | _ => false

/-- A problem that is reported and passed over. -/
inductive Degradation where
  /-- A component that no directory and no resolver provides. -/
  | unresolvedComponent (tag : String)
  /-- A remote asset of which there is no local copy. -/
  | assetFetchFailed (url : String) (reason : String)
  deriving DecidableEq, Repr

def Degradation.message : Degradation → String
  | .unresolvedComponent tag => "unresolved component <" ++ tag ++ ">"
  | .assetFetchFailed url reason => "failed to fetch " ++ url ++ ": " ++ reason

end DeckPress
