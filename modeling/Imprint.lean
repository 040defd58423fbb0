import Imprint.Binding
import Imprint.CommandLine.Basic
import Imprint.CommandLine.Inputs
import Imprint.CommandLine.Options
import Imprint.CommandLine.Text
import Imprint.Config.Basic
import Imprint.Config.Load
import Imprint.Config.Reading
import Imprint.Decimal.Double
import Imprint.Decimal.Nearest
import Imprint.Decimal.Shortest
import Imprint.Decimal.Width
import Imprint.Directive
import Imprint.Formatting.Formatter
import Imprint.Formatting.Program
import Imprint.Formatting.Status
import Imprint.Log
import Imprint.Log.Filter
import Imprint.Main
import Imprint.Marker
import Imprint.Output.Staged
import Imprint.Output.Target
import Imprint.OutputName
import Imprint.Panic
import Imprint.Path
import Imprint.Proofs.Binding.Entries
import Imprint.Proofs.Binding.Known
import Imprint.Proofs.Binding.Override
import Imprint.Proofs.Binding.Written
import Imprint.Proofs.Config.Given
import Imprint.Proofs.Formatting.Behaviour
import Imprint.Proofs.Header.Body
import Imprint.Proofs.Header.Extent
import Imprint.Proofs.Header.Grammar
import Imprint.Proofs.Header.LineEnds
import Imprint.Proofs.Header.Repeated
import Imprint.Proofs.Header.Written
import Imprint.Proofs.Output.Abreast
import Imprint.Proofs.Output.Alongside
import Imprint.Proofs.Output.Atomicity
import Imprint.Proofs.Output.Emptied
import Imprint.Proofs.Output.Kinds
import Imprint.Proofs.Output.Naming
import Imprint.Proofs.Output.Siblings
import Imprint.Proofs.Output.Spared
import Imprint.Proofs.Output.Staged
import Imprint.Proofs.Output.Target
import Imprint.Proofs.Path.Components
import Imprint.Proofs.Path.Parent
import Imprint.Proofs.Path.Spelling
import Imprint.Proofs.Results
import Imprint.Proofs.Run.Again
import Imprint.Proofs.Run.Contained
import Imprint.Proofs.Run.Ignored
import Imprint.Proofs.Run.Plan
import Imprint.Proofs.Run.Single
import Imprint.Proofs.Run.Skipped
import Imprint.Proofs.Run.Spared
import Imprint.Proofs.Run.Stopped
import Imprint.Proofs.Run.Substitution
import Imprint.Proofs.Run.Targets
import Imprint.Proofs.Session.Effect
import Imprint.Proofs.Shorthand.Escape
import Imprint.Proofs.Shorthand.Grammar
import Imprint.Proofs.Shorthand.Offset
import Imprint.Proofs.Shorthand.Reading
import Imprint.Proofs.Store.Denotation
import Imprint.Proofs.Store.Leading
import Imprint.Proofs.Store.Operations
import Imprint.Proofs.Store.Walk
import Imprint.Proofs.Store.Way
import Imprint.Proofs.Template.Adjoining
import Imprint.Proofs.Template.Bounded
import Imprint.Proofs.Template.Closure
import Imprint.Proofs.Template.Fragment
import Imprint.Proofs.Template.FragmentTree
import Imprint.Proofs.Template.Grammar
import Imprint.Proofs.Template.Interpolation
import Imprint.Proofs.Template.Loading
import Imprint.Proofs.Template.Missing
import Imprint.Proofs.Template.Named
import Imprint.Proofs.Template.Output
import Imprint.Proofs.Template.Passage
import Imprint.Proofs.Template.Piece
import Imprint.Proofs.Template.Quoting
import Imprint.Proofs.Template.Reading
import Imprint.Proofs.Template.Scan
import Imprint.Proofs.Template.SearchPath
import Imprint.Proofs.Template.Sought
import Imprint.Proofs.Template.Substitution
import Imprint.Proofs.Template.Tag
import Imprint.Proofs.Template.Unclosed
import Imprint.Proofs.Text.Lines
import Imprint.Proofs.Text.Offset
import Imprint.Proofs.Text.Region
import Imprint.Proofs.Text.Removal
import Imprint.Proofs.Text.Trim
import Imprint.Proofs.Yaml.Record
import Imprint.Run.Basic
import Imprint.Run.Request
import Imprint.Session
import Imprint.Shell.Arithmetic
import Imprint.Shell.Builtin
import Imprint.Shell.Command
import Imprint.Shell.Comparison
import Imprint.Shell.Expansion
import Imprint.Shell.Files
import Imprint.Shell.Filter
import Imprint.Shell.Machine
import Imprint.Shell.Print
import Imprint.Shell.Run
import Imprint.Shell.Script
import Imprint.Shell.Token
import Imprint.Shell.Utility
import Imprint.Shorthand
import Imprint.Source
import Imprint.Store.Basic
import Imprint.Store.Changes
import Imprint.Store.Fault
import Imprint.Store.Operations
import Imprint.Store.Resolve
import Imprint.Template.Basic
import Imprint.Template.Compile
import Imprint.Template.Expr
import Imprint.Template.Expr.Described
import Imprint.Template.Expr.Grammar
import Imprint.Template.Fault
import Imprint.Template.Filter
import Imprint.Template.Function
import Imprint.Template.Node
import Imprint.Template.Number
import Imprint.Template.Origins
import Imprint.Template.Part
import Imprint.Template.Piece
import Imprint.Template.RawBlock
import Imprint.Template.Reading
import Imprint.Template.Reference
import Imprint.Template.Render
import Imprint.Template.Scope
import Imprint.Template.Tag
import Imprint.Template.Test
import Imprint.Template.Value
import Imprint.Text.Blank
import Imprint.Text.CaseTable
import Imprint.Text.Casing
import Imprint.Text.Cluster
import Imprint.Text.ClusterTable
import Imprint.Text.HiddenTable
import Imprint.Text.Lines
import Imprint.Text.Quoted
import Imprint.Text.Region
import Imprint.Text.Search
import Imprint.Text.WordTable
import Imprint.Yaml.Block
import Imprint.Yaml.Cursor
import Imprint.Yaml.Folding
import Imprint.Yaml.Node
import Imprint.Yaml.Plain
import Imprint.Yaml.Quoted
import Imprint.Yaml.Reading
import Imprint.Yaml.Scalar
import Imprint.Yaml.Tag
import Imprint.Yaml.Token
