import EditorPlugins.CommandLine.Arguments
import EditorPlugins.CommandLine.Cell
import EditorPlugins.CommandLine.Color
import EditorPlugins.CommandLine.Command
import EditorPlugins.CommandLine.Emoji
import EditorPlugins.CommandLine.Emoji.Names
import EditorPlugins.CommandLine.Handler
import EditorPlugins.CommandLine.Markup
import EditorPlugins.CommandLine.Page
import EditorPlugins.CommandLine.Run
import EditorPlugins.CommandLine.Style
import EditorPlugins.Compose.Composition
import EditorPlugins.Compose.Metadata
import EditorPlugins.Compose.Substitution
import EditorPlugins.Config.Check
import EditorPlugins.Config.Issue
import EditorPlugins.Config.Load
import EditorPlugins.Config.Schema
import EditorPlugins.Config.Settings
import EditorPlugins.Config.Target
import EditorPlugins.Config.Whole
import EditorPlugins.Disk.Basic
import EditorPlugins.Disk.Change
import EditorPlugins.Disk.Failure
import EditorPlugins.Entries
import EditorPlugins.Error
import EditorPlugins.Frontmatter.Envelope
import EditorPlugins.Frontmatter.Reader
import EditorPlugins.Frontmatter.Scalar
import EditorPlugins.Frontmatter.Writer
import EditorPlugins.Json.Document
import EditorPlugins.Json.Reader
import EditorPlugins.Json.Writer
import EditorPlugins.Main
import EditorPlugins.Merge.KeyPath
import EditorPlugins.Merge.Payload
import EditorPlugins.Merge.ServerPaths
import EditorPlugins.Number.Decimal
import EditorPlugins.Number.Double
import EditorPlugins.Number.Shortest
import EditorPlugins.Octets
import EditorPlugins.Path.FilePath
import EditorPlugins.Path.TemplatePath
import EditorPlugins.Plugin.Compilation
import EditorPlugins.Plugin.File
import EditorPlugins.Plugin.Guest
import EditorPlugins.Plugin.Install
import EditorPlugins.Plugin.Job
import EditorPlugins.Plugin.Servers
import EditorPlugins.Plugin.Standalone
import EditorPlugins.Proofs.Entries
import EditorPlugins.Proofs.Merge.KeyPath
import EditorPlugins.Proofs.Text.Trim
import EditorPlugins.Proofs.Value.Keys
import EditorPlugins.Template.Artifact
import EditorPlugins.Template.Directory
import EditorPlugins.Template.Listing
import EditorPlugins.Template.Naming
import EditorPlugins.Template.Snapshot
import EditorPlugins.Template.Source
import EditorPlugins.Text.Basic
import EditorPlugins.Text.Case
import EditorPlugins.Text.Column
import EditorPlugins.Text.Digit
import EditorPlugins.Text.Lines
import EditorPlugins.Text.Printable
import EditorPlugins.Text.Quoted
import EditorPlugins.Text.Utf8
import EditorPlugins.Traced
import EditorPlugins.Value.Basic
import EditorPlugins.Value.Date
import EditorPlugins.Value.Display
import EditorPlugins.Yaml.Cursor
import EditorPlugins.Yaml.Document
import EditorPlugins.Yaml.Kind
import EditorPlugins.Yaml.Lexeme
import EditorPlugins.Yaml.Node
import EditorPlugins.Yaml.Timestamp
import EditorPlugins.Yaml.Token
import EditorPlugins.Proofs.Merge.Place
import EditorPlugins.Proofs.Config.Check
import EditorPlugins.Proofs.Merge.Effect
import EditorPlugins.Proofs.Merge.Derived
import EditorPlugins.Proofs.Number.Decimal
import EditorPlugins.Proofs.Outcome
import EditorPlugins.Proofs.Text.Lines
import EditorPlugins.Proofs.Frontmatter.Scalar
import EditorPlugins.Proofs.Frontmatter.Reading
import EditorPlugins.Proofs.Frontmatter.RoundTrip
import EditorPlugins.Proofs.Frontmatter.Envelope
import EditorPlugins.Proofs.Traced
import EditorPlugins.Proofs.Plugin.StandaloneAgents
import EditorPlugins.Proofs.Value.Tree
import EditorPlugins.Proofs.Json.Reader
import EditorPlugins.Proofs.Config.Shape
import EditorPlugins.Proofs.Json.Number
import EditorPlugins.Proofs.Json.Text
import EditorPlugins.Proofs.Json.Written
import EditorPlugins.Proofs.Merge.Carried
import EditorPlugins.Proofs.Number.Double
import EditorPlugins.Proofs.Number.Shortest
import EditorPlugins.Proofs.Frontmatter.Float
import EditorPlugins.Proofs.Frontmatter.Parsed
import EditorPlugins.Proofs.Frontmatter.Restored
import EditorPlugins.Proofs.Plugin.GuestRules
import EditorPlugins.Proofs.Disk.Tree
import EditorPlugins.Proofs.Follows
import EditorPlugins.Proofs.Path.TemplatePath
import EditorPlugins.Proofs.Plugin.Bundled
import EditorPlugins.Proofs.Text.Replace
import EditorPlugins.Proofs.Compose.Sections
import EditorPlugins.Proofs.Compose.Local
import EditorPlugins.Proofs.Template.Outside
import EditorPlugins.Proofs.Plugin.Isolation
import EditorPlugins.Proofs.Template.Orderly
import EditorPlugins.Proofs.Plugin.Catalogue
import EditorPlugins.Proofs.Plugin.Report
import EditorPlugins.Proofs.Plugin.Outputs
import EditorPlugins.Proofs.Plugin.Distinct
import EditorPlugins.Proofs.Disk.Change
import EditorPlugins.Proofs.Disk.Written
import EditorPlugins.Proofs.Path.Child
import EditorPlugins.Proofs.Template.Leads
import EditorPlugins.Proofs.Template.Contents
import EditorPlugins.Proofs.Template.Shown
import EditorPlugins.Proofs.Template.Supplied
import EditorPlugins.Proofs.Plugin.Supplied
import EditorPlugins.Proofs.Path.FilePath
import EditorPlugins.Proofs.Plugin.Tidy
import EditorPlugins.Proofs.Plugin.Install
import EditorPlugins.Proofs.CommandLine.Build
import EditorPlugins.Proofs.Frontmatter.Bare
import EditorPlugins.Proofs.Plugin.GuestAgents
import EditorPlugins.Proofs.Frontmatter.Overlong
import EditorPlugins.Proofs.Json.Fuel
import EditorPlugins.Proofs.Json.Overlong
import EditorPlugins.Proofs.Tolerant
import EditorPlugins.Proofs.Config.Mismatch
import EditorPlugins.Proofs.Config.Load
import EditorPlugins.Proofs.Yaml.Refused
import EditorPlugins.Proofs.Frontmatter.AsYaml
import EditorPlugins.Proofs.Compose.Substitution
import EditorPlugins.Proofs.Frontmatter.Enclosed
import EditorPlugins.Proofs.Frontmatter.Marks
import EditorPlugins.Proofs.Compose.Order
import EditorPlugins.Proofs.Compose.Variables
import EditorPlugins.Proofs.Frontmatter.Appended
import EditorPlugins.Proofs.Frontmatter.Returns
import EditorPlugins.Proofs.Compose.Commented
import EditorPlugins.Proofs.Value.Alike
import EditorPlugins.Proofs.Value.Same
import EditorPlugins.Proofs.Merge.Successive
import EditorPlugins.Proofs.Merge.ServerPaths
import EditorPlugins.Proofs.Plugin.GuestHooks
import EditorPlugins.Proofs.Compose.Body
import EditorPlugins.Proofs.Path.Normal
import EditorPlugins.Proofs.Template.Walk
import EditorPlugins.Proofs.Text.Rewriting
import EditorPlugins.Proofs.Plugin.GuestReferences
import EditorPlugins.Proofs.Template.Depth
import EditorPlugins.Proofs.Template.Pruned
