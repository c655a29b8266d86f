import LineShell.Arguments
import LineShell.Binary64.Basic
import LineShell.Binary64.Printer
import LineShell.Binary64.Reader
import LineShell.Binary64.Shortest
import LineShell.Builtin.Control
import LineShell.Builtin.Info
import LineShell.Builtin.Macros
import LineShell.Builtin.Memory
import LineShell.Builtin.Scope
import LineShell.Builtin.Scripts
import LineShell.Builtin.Texts
import LineShell.Command
import LineShell.CommandLine
import LineShell.Completion
import LineShell.Environment
import LineShell.Error
import LineShell.Escape
import LineShell.FileTree
import LineShell.Help
import LineShell.History
import LineShell.Interpolation
import LineShell.Item
import LineShell.Job
import LineShell.Kind
import LineShell.Macro
import LineShell.Main
import LineShell.Marked
import LineShell.Memory
import LineShell.NameMap
import LineShell.Package
import LineShell.Path
import LineShell.Pipeline
import LineShell.Proofs.Atomicity
import LineShell.Proofs.Avoidance
import LineShell.Proofs.Balance
import LineShell.Proofs.Barrier
import LineShell.Proofs.ByteOrder
import LineShell.Proofs.Change
import LineShell.Proofs.Coercion
import LineShell.Proofs.Compilation
import LineShell.Proofs.Completion
import LineShell.Proofs.Congruence
import LineShell.Proofs.Congruence.Interpreter
import LineShell.Proofs.Congruence.Script
import LineShell.Proofs.Consumption
import LineShell.Proofs.Containment
import LineShell.Proofs.Decimal
import LineShell.Proofs.Definition
import LineShell.Proofs.DepthLimit
import LineShell.Proofs.Discipline
import LineShell.Proofs.Event
import LineShell.Proofs.FailFast
import LineShell.Proofs.Feature
import LineShell.Proofs.Feature.Interpreter
import LineShell.Proofs.Feature.Script
import LineShell.Proofs.Forwarding
import LineShell.Proofs.GlobalRun
import LineShell.Proofs.GlobalRun.Watched
import LineShell.Proofs.Grammar
import LineShell.Proofs.Guarded
import LineShell.Proofs.HostCode
import LineShell.Proofs.Immunity
import LineShell.Proofs.Introspection
import LineShell.Proofs.JobHistory
import LineShell.Proofs.LongestName
import LineShell.Proofs.Lookup
import LineShell.Proofs.MacroExpansion
import LineShell.Proofs.Masking
import LineShell.Proofs.Merging
import LineShell.Proofs.Partition
import LineShell.Proofs.Passes
import LineShell.Proofs.Permanence
import LineShell.Proofs.Precedence
import LineShell.Proofs.Provenance
import LineShell.Proofs.Quotation
import LineShell.Proofs.Ranking
import LineShell.Proofs.Reading
import LineShell.Proofs.Reference
import LineShell.Proofs.Refinement
import LineShell.Proofs.Repetition
import LineShell.Proofs.Routine
import LineShell.Proofs.Routine.Interpreter
import LineShell.Proofs.Routine.Regular
import LineShell.Proofs.Routine.Script
import LineShell.Proofs.Scanner
import LineShell.Proofs.Segmentation
import LineShell.Proofs.Shelter
import LineShell.Proofs.Situation
import LineShell.Proofs.Stock
import LineShell.Proofs.Substitution
import LineShell.Proofs.Suppression
import LineShell.Proofs.Termination
import LineShell.Proofs.Tower
import LineShell.Proofs.Verbatim
import LineShell.Regex.Basic
import LineShell.Regex.Bracket
import LineShell.Regex.Cursor
import LineShell.Regex.Escape
import LineShell.Regex.Fault
import LineShell.Regex.Matcher
import LineShell.Regex.Meaning
import LineShell.Regex.Parser
import LineShell.Regex.Pattern
import LineShell.Regex.Property
import LineShell.Regex.Size
import LineShell.Scope
import LineShell.Session.Basic
import LineShell.Session.Change
import LineShell.Session.Expansion
import LineShell.Session.Guard
import LineShell.Session.Interpreter
import LineShell.Session.Script
import LineShell.Settings.Basic
import LineShell.Settings.Filter
import LineShell.Settings.Loading
import LineShell.Settings.Reader
import LineShell.Shell
import LineShell.Text.Age
import LineShell.Text.Alphanumeric
import LineShell.Text.Blank
import LineShell.Text.Break
import LineShell.Text.ByteRanges
import LineShell.Text.Bytes
import LineShell.Text.Case
import LineShell.Text.Category
import LineShell.Text.Cluster
import LineShell.Text.CodePoints
import LineShell.Text.Escaped
import LineShell.Text.JsonString
import LineShell.Text.Layout
import LineShell.Text.Lines
import LineShell.Text.Property
import LineShell.Text.Script
import LineShell.Text.Search
import LineShell.Text.Terminal
import LineShell.Text.Typed
import LineShell.Word
import LineShell.Yaml.Cursor
import LineShell.Yaml.Node
import LineShell.Yaml.Node.Reader
import LineShell.Yaml.Scalar
import LineShell.Yaml.Token
import LineShell.Yaml.Token.Reader
