import MediaSearch.Command.Arguments
import MediaSearch.Command.Run
import MediaSearch.Main
import MediaSearch.Query.Json
import MediaSearch.Query.Parser
import MediaSearch.Settings.Discovery
import MediaSearch.Settings.Template
import MediaSearch.Settings.Warning
import MediaSearch.Sql.Compile
import MediaSearch.Sql.Json
import MediaSearch.Toml.Document
import MediaSearch.Toml.Writer
import MediaSearch.Proofs.Outcome
import MediaSearch.Proofs.Query.Acceptance
import MediaSearch.Proofs.Query.Blocks
import MediaSearch.Proofs.Query.Canonical
import MediaSearch.Proofs.Query.Carets
import MediaSearch.Proofs.Query.Composition
import MediaSearch.Proofs.Query.Faults
import MediaSearch.Proofs.Query.Grammar
import MediaSearch.Proofs.Query.Hints
import MediaSearch.Proofs.Query.Juxtaposition
import MediaSearch.Proofs.Query.KeptTokens
import MediaSearch.Proofs.Query.Layout
import MediaSearch.Proofs.Query.Lockstep
import MediaSearch.Proofs.Query.Nesting
import MediaSearch.Proofs.Query.NormalForm
import MediaSearch.Proofs.Query.OrderComposition
import MediaSearch.Proofs.Query.OrderLists
import MediaSearch.Proofs.Query.Padding
import MediaSearch.Proofs.Query.Positions
import MediaSearch.Proofs.Query.RoundTrip
import MediaSearch.Proofs.Query.Seams
import MediaSearch.Proofs.Query.Spelling
import MediaSearch.Proofs.Query.WrittenOrders
import MediaSearch.Proofs.Sql.BindingOrder
import MediaSearch.Proofs.Sql.Brackets
import MediaSearch.Proofs.Sql.Compatible
import MediaSearch.Proofs.Sql.Compilation
import MediaSearch.Proofs.Sql.Condition
import MediaSearch.Proofs.Sql.Failures
import MediaSearch.Proofs.Sql.Meaning
import MediaSearch.Proofs.Sql.Needs
import MediaSearch.Proofs.Sql.Noninterference
import MediaSearch.Proofs.Sql.Operations
import MediaSearch.Proofs.Sql.OrderComposition
import MediaSearch.Proofs.Sql.Placeholders
import MediaSearch.Proofs.Sql.Provenance
import MediaSearch.Proofs.Sql.Qualifiers
import MediaSearch.Proofs.Sql.Scoping
import MediaSearch.Proofs.Sql.TextPatterns
import MediaSearch.Proofs.Sql.Trimming
import MediaSearch.Proofs.Sql.Union
import MediaSearch.Proofs.Sql.WrittenValues
import MediaSearch.Proofs.Settings.OrderWarnings
import MediaSearch.Proofs.Settings.Precedence
import MediaSearch.Proofs.Toml.Lines
import MediaSearch.Proofs.Settings.Reloading
import MediaSearch.Proofs.Paths
import MediaSearch.Proofs.Settings.Discovery
import MediaSearch.Proofs.FileTree
import MediaSearch.Proofs.Command.NewFile
