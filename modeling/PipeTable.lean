import PipeTable.CommandLine.Command
import PipeTable.CommandLine.Grammar
import PipeTable.CommandLine.Reading
import PipeTable.CommandLine.Run
import PipeTable.CommandLine.Script
import PipeTable.Config.Json
import PipeTable.Config.Location
import PipeTable.Config.Settings
import PipeTable.Document
import PipeTable.Error
import PipeTable.Expr.Check
import PipeTable.Expr.Eval
import PipeTable.Expr.Expression
import PipeTable.Expr.Formula
import PipeTable.Expr.Lexer
import PipeTable.Expr.Literal
import PipeTable.Expr.Parser
import PipeTable.Expr.Registry
import PipeTable.Expr.Signature
import PipeTable.Expr.StringLiteral
import PipeTable.Expr.Template
import PipeTable.Expr.Term
import PipeTable.Fault
import PipeTable.Filter.Block
import PipeTable.Filter.Functions
import PipeTable.Filter.Merge
import PipeTable.Filter.Params
import PipeTable.Filter.Select
import PipeTable.Jump.Condition
import PipeTable.Jump.Functions
import PipeTable.Jump.Session
import PipeTable.Jump.Traversal
import PipeTable.Main
import PipeTable.Narrow.Layout
import PipeTable.Narrow.Plan
import PipeTable.Narrow.Program
import PipeTable.Narrow.Request
import PipeTable.Navigation
import PipeTable.Number.Binary64
import PipeTable.Number.Complex
import PipeTable.Number.Fixed
import PipeTable.Number.Reading
import PipeTable.Number.Shortest
import PipeTable.Number.Sum
import PipeTable.Pattern.Basic
import PipeTable.Pattern.Fold
import PipeTable.Pattern.Match
import PipeTable.Pattern.Parser
import PipeTable.Pattern.Search
import PipeTable.Preset
import PipeTable.Proofs.Check
import PipeTable.Proofs.Effects
import PipeTable.Proofs.Tour
import PipeTable.Selection
import PipeTable.Table.Basic
import PipeTable.Table.Concat
import PipeTable.Table.Csv
import PipeTable.Table.Flatten
import PipeTable.Table.Format
import PipeTable.Table.Reduction
import PipeTable.Text.Blank
import PipeTable.Text.Case
import PipeTable.Text.CaseTable
import PipeTable.Text.CharTable
import PipeTable.Text.Compatibility
import PipeTable.Text.CompatibilityTable
import PipeTable.Text.Digit
import PipeTable.Text.Hex
import PipeTable.Text.Identifier
import PipeTable.Text.Integer
import PipeTable.Text.NameTable
import PipeTable.Text.Names
import PipeTable.Text.Path
import PipeTable.Text.Printable
import PipeTable.Text.Quoted
import PipeTable.Text.ShellWords
import PipeTable.Text.Word
import PipeTable.Text.Wrap
import PipeTable.Timestamp
import PipeTable.Value.Arithmetic
import PipeTable.Value.Basic
import PipeTable.Value.Compare
import PipeTable.Value.Convert
import PipeTable.Value.Equality
import PipeTable.Value.Fill
import PipeTable.Value.Printer
import PipeTable.Value.Sequence
import PipeTable.Proofs.Rollback
import PipeTable.Proofs.Cells
import PipeTable.Proofs.Meaning
import PipeTable.Proofs.Columns
import PipeTable.Proofs.Planning
import PipeTable.Proofs.Lines
import PipeTable.Proofs.Monitor
import PipeTable.Proofs.Formatting
import PipeTable.Proofs.Shape
import PipeTable.Proofs.Sweep
import PipeTable.Proofs.Calls
import PipeTable.Proofs.Wrapping
import PipeTable.Proofs.Layout
import PipeTable.Proofs.Narrowing
import PipeTable.Proofs.Stages
import PipeTable.Proofs.Faults
import PipeTable.Proofs.Names
import PipeTable.Proofs.Passes
import PipeTable.Proofs.Flattening
import PipeTable.Proofs.Groups
import PipeTable.Proofs.Extents
import PipeTable.Proofs.Blocks
import PipeTable.Proofs.Return
import PipeTable.Proofs.Rejoining
import PipeTable.Proofs.Printing
import PipeTable.Proofs.Requests
import PipeTable.Proofs.Joining
import PipeTable.Proofs.Quoting
import PipeTable.Proofs.Endings
import PipeTable.Proofs.Grammar
import PipeTable.Proofs.Ragged
import PipeTable.Proofs.Commands
import PipeTable.Proofs.Marking
import PipeTable.Proofs.Turns
import PipeTable.Proofs.Callees
import PipeTable.Proofs.Register
import PipeTable.Proofs.Orderings
import PipeTable.Proofs.Walks
import PipeTable.Proofs.Unfolding
import PipeTable.Proofs.Invocations
import PipeTable.Proofs.Neighbours
import PipeTable.Proofs.Calendar
import PipeTable.Proofs.Numerals
import PipeTable.Proofs.Spellings
import PipeTable.Proofs.Doubles
import PipeTable.Proofs.Membership
import PipeTable.Proofs.Intervals
import PipeTable.Proofs.Chains
import PipeTable.Proofs.Repetition
import PipeTable.Proofs.Selections
import PipeTable.Proofs.Tolerance
import PipeTable.Proofs.Sources
import PipeTable.Proofs.Digits
import PipeTable.Proofs.References
import PipeTable.Proofs.Layers
import PipeTable.Proofs.Literals
import PipeTable.Proofs.Presets
import PipeTable.Proofs.Pruning
import PipeTable.Proofs.Heights
import PipeTable.Proofs.Settled
import PipeTable.Proofs.Runs
import PipeTable.Proofs.Insertion
import PipeTable.Proofs.Apart
import PipeTable.Proofs.Unaltered
import PipeTable.Proofs.Responses
import PipeTable.Proofs.Transposition
import PipeTable.Proofs.Regrouping
import PipeTable.Proofs.Progressions
import PipeTable.Proofs.Selectors
import PipeTable.Proofs.Widening
import PipeTable.Proofs.Refusals
import PipeTable.Proofs.Configuration
import PipeTable.Proofs.Addresses
