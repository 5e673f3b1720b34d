import ReleasePress.Alias
import ReleasePress.Calendar.Day
import ReleasePress.Calendar.Format
import ReleasePress.Calendar.Interval
import ReleasePress.Calendar.Moment
import ReleasePress.Calendar.Pattern
import ReleasePress.Calendar.Pattern.Names
import ReleasePress.Calendar.Pattern.Reader
import ReleasePress.Calendar.Pattern.Writer
import ReleasePress.Calendar.Timestamp
import ReleasePress.Circumstances
import ReleasePress.CommandLine.Arguments
import ReleasePress.CommandLine.Help
import ReleasePress.CommandLine.Run
import ReleasePress.Decimal.Layout
import ReleasePress.Decimal.Reader
import ReleasePress.Decimal.Remainder
import ReleasePress.Decimal.Shortest
import ReleasePress.Environment
import ReleasePress.Files.Aliases
import ReleasePress.Files.Changes
import ReleasePress.Files.Path
import ReleasePress.Files.Tree
import ReleasePress.Filter.Basic
import ReleasePress.Filter.Library
import ReleasePress.Git.Command
import ReleasePress.Git.Encoding
import ReleasePress.Git.Error
import ReleasePress.Git.Object
import ReleasePress.Git.ObjectId
import ReleasePress.Git.Raw
import ReleasePress.Git.Repository
import ReleasePress.Git.Store
import ReleasePress.Git.Trailer
import ReleasePress.Git.WorkTree
import ReleasePress.Json.Basic
import ReleasePress.Json.Display
import ReleasePress.Json.Reader
import ReleasePress.Json.Writer
import ReleasePress.Log
import ReleasePress.Log.Level
import ReleasePress.Main
import ReleasePress.Markdown.Block
import ReleasePress.Markdown.Block.Line
import ReleasePress.Markdown.Block.Reader
import ReleasePress.Markdown.Emphasis
import ReleasePress.Markdown.Entity
import ReleasePress.Markdown.FrontMatter
import ReleasePress.Markdown.Html
import ReleasePress.Markdown.Inline
import ReleasePress.Markdown.Inline.Reader
import ReleasePress.Markdown.Link
import ReleasePress.Markdown.Table
import ReleasePress.Markdown.Tag
import ReleasePress.Output
import ReleasePress.Settings.Basic
import ReleasePress.Settings.Toml
import ReleasePress.Template.Arithmetic
import ReleasePress.Template.Builtin
import ReleasePress.Template.Document
import ReleasePress.Template.Error
import ReleasePress.Template.Expression
import ReleasePress.Template.Function
import ReleasePress.Template.Name
import ReleasePress.Template.Operation
import ReleasePress.Template.Operation.Any
import ReleasePress.Template.Operation.Argument
import ReleasePress.Template.Operation.List
import ReleasePress.Template.Operation.Text
import ReleasePress.Template.Outline
import ReleasePress.Template.Reader.Basic
import ReleasePress.Template.Reader.Document
import ReleasePress.Template.Reader.Expression
import ReleasePress.Template.Render
import ReleasePress.Template.Scope
import ReleasePress.Template.Source
import ReleasePress.Template.Test
import ReleasePress.Text.Blank
import ReleasePress.Text.Case
import ReleasePress.Text.Digit
import ReleasePress.Text.EditDistance
import ReleasePress.Text.Hex
import ReleasePress.Text.Punctuation
import ReleasePress.Text.RegularExpression
import ReleasePress.Text.RegularExpression.Reader
import ReleasePress.Text.Slug
import ReleasePress.Text.Split
import ReleasePress.Text.Utf8
import ReleasePress.Text.Word
import ReleasePress.Value
import ReleasePress.Yaml.Data
import ReleasePress.Yaml.Node
import ReleasePress.Yaml.Scalar
import ReleasePress.Yaml.Token
import ReleasePress.Yaml.Tokens
import ReleasePress.Proofs.Calendar.Day
import ReleasePress.Proofs.Calendar.Interval
import ReleasePress.Proofs.Calendar.Lenient
import ReleasePress.Proofs.Calendar.RoundTrip
import ReleasePress.Proofs.Calendar.Spelling
import ReleasePress.Proofs.Calendar.Strict
import ReleasePress.Proofs.Calendar.Timestamp
import ReleasePress.Proofs.CommandLine.Fresh
import ReleasePress.Proofs.CommandLine.Render
import ReleasePress.Proofs.Environment
import ReleasePress.Proofs.Environment.Alone
import ReleasePress.Proofs.Environment.ByName
import ReleasePress.Proofs.Files.Alters
import ReleasePress.Proofs.Files.Descent
import ReleasePress.Proofs.Files.Keeps
import ReleasePress.Proofs.Files.Listing
import ReleasePress.Proofs.Files.Parent
import ReleasePress.Proofs.Files.Path
import ReleasePress.Proofs.Files.Room
import ReleasePress.Proofs.Files.Tree
import ReleasePress.Proofs.Files.Write
import ReleasePress.Proofs.Filter.Mirrored
import ReleasePress.Proofs.Filter.Misuse
import ReleasePress.Proofs.Filter.Settled
import ReleasePress.Proofs.Filter.Subjects
import ReleasePress.Proofs.Git.Ancestors
import ReleasePress.Proofs.Git.Dates
import ReleasePress.Proofs.Git.Encoding
import ReleasePress.Proofs.Git.Fields
import ReleasePress.Proofs.Git.Raw
import ReleasePress.Proofs.Git.Signature
import ReleasePress.Proofs.Git.Steady
import ReleasePress.Proofs.Git.Store
import ReleasePress.Proofs.Git.Trailer
import ReleasePress.Proofs.Markdown.FrontMatter
import ReleasePress.Proofs.Output.Beneath
import ReleasePress.Proofs.Output.Fresh
import ReleasePress.Proofs.Output.Passthrough
import ReleasePress.Proofs.Output.Write
import ReleasePress.Proofs.State
import ReleasePress.Proofs.Template.Contract
import ReleasePress.Proofs.Template.Entries
import ReleasePress.Proofs.Template.Marker
import ReleasePress.Proofs.Template.Order
import ReleasePress.Proofs.Template.Refusal
import ReleasePress.Proofs.Template.Render
import ReleasePress.Proofs.Template.Resolve
import ReleasePress.Proofs.Template.Mirrored
import ReleasePress.Proofs.Template.SideBySide
import ReleasePress.Proofs.Template.Step
import ReleasePress.Proofs.Template.Walk
import ReleasePress.Proofs.Text.Digits
import ReleasePress.Proofs.Text.Lines
import ReleasePress.Proofs.Text.Split
import ReleasePress.Proofs.Text.Trim
import ReleasePress.Proofs.Value
import ReleasePress.Proofs.Git.Freshness
import ReleasePress.Proofs.Git.Invocations
import ReleasePress.Proofs.Git.Answers
import ReleasePress.Proofs.Filter.Aliases
import ReleasePress.Proofs.Template.Precedence
import ReleasePress.Proofs.CommandLine.Failing
import ReleasePress.Proofs.CommandLine.Lookup
import ReleasePress.Proofs.Calendar.Pattern
import ReleasePress.Proofs.Filter.DefaultPattern
import ReleasePress.Proofs.Calendar.Fields
import ReleasePress.Proofs.Calendar.Reading
import ReleasePress.Proofs.Calendar.Format
import ReleasePress.Proofs.Git.Identity
import ReleasePress.Proofs.Git.FirstParents
import ReleasePress.Proofs.Filter.Contact
import ReleasePress.Proofs.Files.Removal
import ReleasePress.Proofs.Template.Unreadable
import ReleasePress.Proofs.Calendar.Instant
import ReleasePress.Proofs.Filter.Instants
import ReleasePress.Proofs.Filter.Members
import ReleasePress.Proofs.Filter.Named
import ReleasePress.Proofs.Environment.Headers
import ReleasePress.Proofs.Filter.Canonical
import ReleasePress.Proofs.Template.Insertion
import ReleasePress.Proofs.Template.MarkdownKey
import ReleasePress.Proofs.Template.Suggestion
import ReleasePress.Proofs.Text.EditDistance
