import DeckPress.Artifact
import DeckPress.Asset.Name
import DeckPress.Asset.Rewrite
import DeckPress.Code.Editor
import DeckPress.Code.Highlight
import DeckPress.Code.Language
import DeckPress.CommandLine.Arguments
import DeckPress.CommandLine.Run
import DeckPress.Component.Brace
import DeckPress.Component.CodeRegion
import DeckPress.Component.Compile
import DeckPress.Component.Element
import DeckPress.Component.Hoist
import DeckPress.Component.Icon
import DeckPress.Component.Importer
import DeckPress.Component.Name
import DeckPress.Component.Script
import DeckPress.Component.Tag
import DeckPress.Deck.FrontMatter
import DeckPress.Deck.Parser
import DeckPress.Deck.Slide
import DeckPress.Disk.Basic
import DeckPress.Disk.Check
import DeckPress.Disk.Find
import DeckPress.Disk.Path
import DeckPress.Encoding.Base64
import DeckPress.Encoding.Sha256
import DeckPress.Error
import DeckPress.Glob.Pattern
import DeckPress.Json.Parser
import DeckPress.Json.Printer
import DeckPress.Json.Record
import DeckPress.Json.Value
import DeckPress.Layout
import DeckPress.Main
import DeckPress.Markdown.Autolink
import DeckPress.Markdown.Block
import DeckPress.Markdown.Cursor
import DeckPress.Markdown.Entity
import DeckPress.Markdown.EntityTable
import DeckPress.Markdown.Html
import DeckPress.Markdown.Inline
import DeckPress.Markdown.Link
import DeckPress.Markdown.Table
import DeckPress.Markdown.Tag
import DeckPress.Module.Deck
import DeckPress.Module.Id
import DeckPress.Number.Binary64
import DeckPress.Number.Decimal
import DeckPress.Number.Natural
import DeckPress.Options.Basic
import DeckPress.Options.Reader
import DeckPress.Options.Source
import DeckPress.Pipeline.Basic
import DeckPress.Pipeline.Build
import DeckPress.Pipeline.Output
import DeckPress.Pipeline.Run
import DeckPress.Presentation
import DeckPress.Proofs.Asset.Address
import DeckPress.Proofs.Asset.Calls
import DeckPress.Proofs.Asset.Copies
import DeckPress.Proofs.Asset.Rewriting
import DeckPress.Proofs.Code.ClosingBraces
import DeckPress.Proofs.Code.Editor
import DeckPress.Proofs.Code.FencedCode
import DeckPress.Proofs.Code.Replacement
import DeckPress.Proofs.Code.Samples
import DeckPress.Proofs.Component.Bindings
import DeckPress.Proofs.Component.Brace
import DeckPress.Proofs.Component.Compile
import DeckPress.Proofs.Component.Declarations
import DeckPress.Proofs.Component.EditorFences
import DeckPress.Proofs.Component.Fences
import DeckPress.Proofs.Component.Fillings
import DeckPress.Proofs.Component.FrontMatter
import DeckPress.Proofs.Component.Hoist
import DeckPress.Proofs.Component.Icons
import DeckPress.Proofs.Component.Importer
import DeckPress.Proofs.Component.Imports
import DeckPress.Proofs.Component.Interpolation
import DeckPress.Proofs.Component.Lookups
import DeckPress.Proofs.Component.Recall
import DeckPress.Proofs.Component.Resolving
import DeckPress.Proofs.Component.ScriptTags
import DeckPress.Proofs.Component.Spellings
import DeckPress.Proofs.Component.Statements
import DeckPress.Proofs.Component.Tags
import DeckPress.Proofs.Component.UsedTags
import DeckPress.Proofs.Deck.Detached
import DeckPress.Proofs.Deck.Fences
import DeckPress.Proofs.Deck.Grammar
import DeckPress.Proofs.Deck.Headmatter
import DeckPress.Proofs.Deck.Parsing
import DeckPress.Proofs.Deck.PresenterNotes
import DeckPress.Proofs.Deck.Titles
import DeckPress.Proofs.Disk.Canonical
import DeckPress.Proofs.Disk.Extension
import DeckPress.Proofs.Disk.Path
import DeckPress.Proofs.Disk.Walk
import DeckPress.Proofs.Disk.Writing
import DeckPress.Proofs.Json.Printer
import DeckPress.Proofs.Json.Strings
import DeckPress.Proofs.Layout
import DeckPress.Proofs.Module.Descriptions
import DeckPress.Proofs.Module.Editor
import DeckPress.Proofs.Module.Id
import DeckPress.Proofs.Module.Imports
import DeckPress.Proofs.Module.Merging
import DeckPress.Proofs.Module.Numbering
import DeckPress.Proofs.Module.Setups
import DeckPress.Proofs.Module.Slides
import DeckPress.Proofs.Pipeline.Accounts
import DeckPress.Proofs.Pipeline.Build
import DeckPress.Proofs.Pipeline.Containment
import DeckPress.Proofs.Pipeline.Invalidation
import DeckPress.Proofs.Pipeline.Marks
import DeckPress.Proofs.Pipeline.Notes
import DeckPress.Proofs.Pipeline.Outputs
import DeckPress.Proofs.Pipeline.Places
import DeckPress.Proofs.Pipeline.Run
import DeckPress.Proofs.Pipeline.Schedules
import DeckPress.Proofs.Pipeline.Scheduling
import DeckPress.Proofs.Pipeline.Versions
import DeckPress.Proofs.Regex.Ends
import DeckPress.Proofs.Regex.Leftmost
import DeckPress.Proofs.Regex.Words
import DeckPress.Proofs.Server.Confinement
import DeckPress.Proofs.Server.Edits
import DeckPress.Proofs.Server.Following
import DeckPress.Proofs.Server.References
import DeckPress.Proofs.Server.StateRequests
import DeckPress.Proofs.SharedState.Convergence
import DeckPress.Proofs.SharedState.Updates
import DeckPress.Proofs.Sorted
import DeckPress.Proofs.Style.Attributes
import DeckPress.Proofs.Style.Collection
import DeckPress.Proofs.Style.NegativeDistances
import DeckPress.Proofs.Style.SampleTokens
import DeckPress.Proofs.Style.Scanning
import DeckPress.Proofs.Style.Scope
import DeckPress.Proofs.Style.Selectors
import DeckPress.Proofs.Style.Sheet
import DeckPress.Proofs.Style.VariantOrder
import DeckPress.Proofs.Style.Variants
import DeckPress.Proofs.Text.Case
import DeckPress.Proofs.Text.Lines
import DeckPress.Proofs.Text.Search
import DeckPress.Proofs.Workers
import DeckPress.Regex.Basic
import DeckPress.Regex.Match
import DeckPress.Regex.Meaning
import DeckPress.Regex.Notation
import DeckPress.Regex.Parser
import DeckPress.Regex.Property
import DeckPress.Regex.Reading
import DeckPress.Server.Change
import DeckPress.Server.File
import DeckPress.Server.Request
import DeckPress.Server.Session
import DeckPress.Settings
import DeckPress.SharedState
import DeckPress.Style.Collection
import DeckPress.Style.Config
import DeckPress.Style.Rule
import DeckPress.Style.Scope
import DeckPress.Style.Sheet
import DeckPress.Style.Tokens
import DeckPress.Style.Vocabulary
import DeckPress.Text.Basic
import DeckPress.Text.Case
import DeckPress.Text.Category
import DeckPress.Text.CharClass
import DeckPress.Text.CodeRange
import DeckPress.Text.CodeSet
import DeckPress.Text.Composed
import DeckPress.Text.Html
import DeckPress.Text.Quoted
import DeckPress.Text.Table.Age
import DeckPress.Text.Table.Case
import DeckPress.Text.Table.CaseOrbit
import DeckPress.Text.Table.Category
import DeckPress.Text.Table.CharClass
import DeckPress.Text.Table.Composition
import DeckPress.Text.Table.Property
import DeckPress.Text.Table.Script
import DeckPress.Text.Table.ScriptExtension
import DeckPress.Url.Host
import DeckPress.Url.HostName
import DeckPress.Url.Label
import DeckPress.Url.Parser
import DeckPress.Url.Percent
import DeckPress.Url.Punycode
import DeckPress.Url.Table.Host
import DeckPress.Url.Table.Label
import DeckPress.Yaml.Node
import DeckPress.Yaml.Printer
import DeckPress.Yaml.Scalar
import DeckPress.Yaml.Token
