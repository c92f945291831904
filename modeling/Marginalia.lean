import Marginalia.Body
import Marginalia.Catalog
import Marginalia.Command
import Marginalia.CommitDate
import Marginalia.Decimal.Binary64
import Marginalia.Decimal.Notation
import Marginalia.Failure
import Marginalia.FileSystem
import Marginalia.FileSystem.Tree
import Marginalia.Grammar.Bash
import Marginalia.Grammar.Builtin
import Marginalia.Grammar.C
import Marginalia.Grammar.Go
import Marginalia.Grammar.Java
import Marginalia.Grammar.Python
import Marginalia.Grammar.Rust
import Marginalia.Grammar.Token
import Marginalia.Header
import Marginalia.Highlight.Class
import Marginalia.Highlight.Span
import Marginalia.Html.Escape
import Marginalia.Language.Basic
import Marginalia.Language.Divider
import Marginalia.Language.Registry
import Marginalia.Main
import Marginalia.Markdown.BlockReader
import Marginalia.Markdown.BlockStart
import Marginalia.Markdown.Character
import Marginalia.Markdown.Document
import Marginalia.Markdown.Emphasis
import Marginalia.Markdown.Escape
import Marginalia.Markdown.InlineContent
import Marginalia.Markdown.Line
import Marginalia.Markdown.Link
import Marginalia.Markdown.NamedCharacter
import Marginalia.Markdown.Table
import Marginalia.Markdown.Tag
import Marginalia.Markdown.Writer
import Marginalia.Page.Asset
import Marginalia.Page.Index
import Marginalia.Page.Revision
import Marginalia.Path
import Marginalia.Program
import Marginalia.Section
import Marginalia.Settings.Basic
import Marginalia.Settings.Discovery
import Marginalia.Settings.Reader
import Marginalia.Site.Discovery
import Marginalia.Site.Generation
import Marginalia.Site.Work
import Marginalia.Snapshot
import Marginalia.Text.Basic
import Marginalia.Text.CaseFold
import Marginalia.Text.CodePoint
import Marginalia.Text.DecimalDigit
import Marginalia.Text.Lines
import Marginalia.Text.Lowercase
import Marginalia.Text.Punctuation
import Marginalia.Text.Quoted
import Marginalia.Text.WhiteSpace
import Marginalia.Text.WordCharacter
import Marginalia.Yaml.Event
import Marginalia.Yaml.Property
import Marginalia.Yaml.Scalar
import Marginalia.Yaml.ScalarText
import Marginalia.Yaml.Source
import Marginalia.Yaml.Token
import Marginalia.Yaml.TokenStream
import Marginalia.Proofs.Divider.Search
import Marginalia.Proofs.Text.Offset
import Marginalia.Proofs.Divider.Interleaving
import Marginalia.Proofs.Highlight.Markup
import Marginalia.Proofs.Body.Recombination
import Marginalia.Proofs.Divider.Fragment
import Marginalia.Proofs.Body.PlainCode
import Marginalia.Proofs.Header.RoundTrip
import Marginalia.Proofs.FileSystem.Entry
import Marginalia.Proofs.FileSystem.Growth
import Marginalia.Proofs.FileSystem.Writing
import Marginalia.Proofs.Site.Work
import Marginalia.Proofs.Site.Validation
import Marginalia.Proofs.Catalog.Grouping
import Marginalia.Proofs.Site.Publication
import Marginalia.Proofs.FileSystem.Name
import Marginalia.Proofs.Site.Schedule
import Marginalia.Proofs.Site.Policy
import Marginalia.Proofs.Outcome
import Marginalia.Proofs.Page.Metadata
import Marginalia.Proofs.Text.ByteOrder
import Marginalia.Proofs.Catalog.Ordering
import Marginalia.Proofs.FileSystem.Listing
import Marginalia.Proofs.FileSystem.Relative
import Marginalia.Proofs.Site.Enumeration
import Marginalia.Proofs.Html.Link
import Marginalia.Proofs.Page.Link
import Marginalia.Proofs.Site.Link
import Marginalia.Proofs.Highlight.Source
import Marginalia.Proofs.Highlight.Overlap
import Marginalia.Proofs.Divider.Remainder
import Marginalia.Proofs.FileSystem.Place
import Marginalia.Proofs.Site.Replay
import Marginalia.Proofs.Site.Regeneration
import Marginalia.Proofs.Text.Run
import Marginalia.Proofs.Text.Trim
import Marginalia.Proofs.Header.Grammar
import Marginalia.Proofs.Header.Verdict
import Marginalia.Proofs.Section.Decomposition
import Marginalia.Proofs.Section.Header
import Marginalia.Proofs.Catalog.Jobs
import Marginalia.Proofs.Text.Number
import Marginalia.Proofs.CommitDate.Reading
import Marginalia.Proofs.Html.Reference
import Marginalia.Proofs.Site.Reference
import Marginalia.Proofs.Highlight.Capture
import Marginalia.Proofs.Site.Settlement
import Marginalia.Proofs.Divider.Leftmost
import Marginalia.Proofs.Path.Extension
import Marginalia.Proofs.Language.Lookup
