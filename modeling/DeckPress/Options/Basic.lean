import DeckPress.Component.Compile
import DeckPress.Component.Icon
import DeckPress.Component.Importer
import DeckPress.Layout

/-!
# Options

The options of a project, one record for each part of the work. Defaults depend on the layout. A project
overrides single fields; a field that is given replaces the default as a whole.
-/

namespace DeckPress

open Component

/-- How remote assets are kept. -/
structure AssetOptions where
  enabled : Bool := true
  /-- Regular expressions for the addresses of assets. -/
  patterns : List String
  cacheDir : Path
  /-- How long a download may take, in seconds. -/
  timeoutSecs : Nat := 10
  /-- How often a download is tried. -/
  retries : Nat := 3
  deriving Repr

/-- Which files are scanned for utility classes, and how the classes are configured. -/
structure StyleOptions where
  /-- Glob patterns, relative to the directory that is scanned. -/
  included : List String
  excluded : List String
  /-- Directories that are scanned besides the deck's. -/
  scanDirs : List Path
  /-- Configuration files; later ones win. -/
  configFiles : List Path
  deriving Repr

/-- All options of a project. -/
structure Options where
  /-- The extensions of files that are components. -/
  componentFiles : List String := ["vue", "md"]
  markdown : MarkdownOptions := {}
  components : ComponentOptions
  icons : IconOptions := {}
  assets : AssetOptions
  style : StyleOptions
  deriving Repr

/-- The addresses of images, media and fonts. -/
def AssetOptions.defaultPattern : String :=
  "https?://[^\\s'\"\x60()<>?#]+\\.(?:png|jpe?g|gif|svg|webp|avif|ico|mp4|webm|ogg|mp3|wav|woff2?|ttf|otf)\\b(?:[?#][^\\s'\"\x60()<>]*)?"

/-- The options of a project that overrides nothing. -/
def Options.defaults (l : Layout) : Options where
  components := {
    extensions := ["vue", "md", "ts"]
    dirs := [⟨"components"⟩, ⟨"src/components"⟩, l.themeRoot / "components",
      l.clientRoot / "components", l.clientRoot / "builtin"] }
  assets := {
    patterns := [AssetOptions.defaultPattern]
    cacheDir := l.deckRoot / ".slidev" / "remote-assets" }
  style := {
    included := ["**/*.md", "**/*.vue", "**/*.html", "**/*.ts", "**/*.tsx"]
    excluded := [".git/**", "node_modules/**", "dist/**", ".slidev/**"]
    scanDirs := [l.themeRoot / "components", l.themeRoot / "layouts", l.clientRoot / "builtin",
      l.clientRoot / "components", l.clientRoot / "layouts"]
    configFiles := [l.clientRoot, l.themeRoot, l.deckRoot].map (· / "windi.config.json") }

/-- The overrides of the markdown options. -/
structure MarkdownOverrides where
  wrapperClasses : Option String := none
  headEnabled : Option Bool := none
  html : Option Bool := none
  linkify : Option Bool := none
  highlight : Option Bool := none
  monaco : Option Bool := none
  deriving Repr

def MarkdownOverrides.apply (v : MarkdownOverrides) (o : MarkdownOptions) : MarkdownOptions where
  wrapperClasses := v.wrapperClasses.getD o.wrapperClasses
  headEnabled := v.headEnabled.getD o.headEnabled
  html := v.html.getD o.html
  linkify := v.linkify.getD o.linkify
  highlight := v.highlight.getD o.highlight
  monaco := v.monaco.getD o.monaco

/-- The overrides of the component options. -/
structure ComponentOverrides where
  extensions : Option (List String) := none
  dirs : Option (List Path) := none
  deep : Option Bool := none
  deriving Repr

def ComponentOverrides.apply (v : ComponentOverrides) (o : ComponentOptions) : ComponentOptions where
  extensions := v.extensions.getD o.extensions
  dirs := v.dirs.getD o.dirs
  deep := v.deep.getD o.deep

/-- The overrides of the icon options. -/
structure IconOverrides where
  tagPrefix : Option String := none
  defaultCollection : Option String := none
  collections : Option (List String) := none
  deriving Repr

def IconOverrides.apply (v : IconOverrides) (o : IconOptions) : IconOptions where
  tagPrefix := v.tagPrefix.getD o.tagPrefix
  defaultCollection := v.defaultCollection.getD o.defaultCollection
  collections := v.collections.getD o.collections

/-- The overrides of the asset options. -/
structure AssetOverrides where
  enabled : Option Bool := none
  patterns : Option (List String) := none
  cacheDir : Option Path := none
  timeoutSecs : Option Nat := none
  retries : Option Nat := none
  deriving Repr

def AssetOverrides.apply (v : AssetOverrides) (o : AssetOptions) : AssetOptions where
  enabled := v.enabled.getD o.enabled
  patterns := v.patterns.getD o.patterns
  cacheDir := v.cacheDir.getD o.cacheDir
  timeoutSecs := v.timeoutSecs.getD o.timeoutSecs
  retries := v.retries.getD o.retries

/-- The overrides of the style options. -/
structure StyleOverrides where
  included : Option (List String) := none
  excluded : Option (List String) := none
  scanDirs : Option (List Path) := none
  configFiles : Option (List Path) := none
  deriving Repr

def StyleOverrides.apply (v : StyleOverrides) (o : StyleOptions) : StyleOptions where
  included := v.included.getD o.included
  excluded := v.excluded.getD o.excluded
  scanDirs := v.scanDirs.getD o.scanDirs
  configFiles := v.configFiles.getD o.configFiles

/-- What a project asks for: its theme and client runtime, and overrides. -/
structure Overrides where
  theme : Option String := none
  clientRoot : Option Path := none
  componentFiles : Option (List String) := none
  markdown : MarkdownOverrides := {}
  components : ComponentOverrides := {}
  icons : IconOverrides := {}
  assets : AssetOverrides := {}
  style : StyleOverrides := {}
  deriving Repr

/-- The options of a project with its overrides. -/
def Overrides.resolve (v : Overrides) (l : Layout) : Options :=
  let o := Options.defaults l
  { componentFiles := v.componentFiles.getD o.componentFiles
    markdown := v.markdown.apply o.markdown
    components := v.components.apply o.components
    icons := v.icons.apply o.icons
    assets := v.assets.apply o.assets
    style := v.style.apply o.style }

end DeckPress
