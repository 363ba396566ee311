import Covenant.Clause.Depth
import Covenant.Clause.Error
import Covenant.Clause.Expr
import Covenant.Clause.Number
import Covenant.Clause.Parse
import Covenant.Clause.Scope
import Covenant.Clause.StringLiteral
import Covenant.Clause.Token
import Covenant.Clause.Typed
import Covenant.Command.Arithmetic
import Covenant.Command.Builtin
import Covenant.Command.Condition
import Covenant.Command.Disk
import Covenant.Command.Execute
import Covenant.Command.Format
import Covenant.Command.Glob
import Covenant.Command.Parse
import Covenant.Command.Program
import Covenant.Command.Regular
import Covenant.Command.Script
import Covenant.Command.Shell
import Covenant.Command.Start
import Covenant.Command.Words
import Covenant.CommandLine.Options
import Covenant.CommandLine.Paths
import Covenant.CommandLine.Run
import Covenant.Configuration
import Covenant.Decimal.Shortest
import Covenant.Decimal.Text
import Covenant.Desk
import Covenant.Engine.Basic
import Covenant.Engine.Bounded
import Covenant.Engine.Choice
import Covenant.Engine.Scripted
import Covenant.Engine.SolvedModel
import Covenant.Fault
import Covenant.Field
import Covenant.Files.Path
import Covenant.Files.Tree
import Covenant.Log
import Covenant.Main
import Covenant.Model.Class
import Covenant.Model.Encoding
import Covenant.Model.Load
import Covenant.Model.Scope
import Covenant.Outcome
import Covenant.Proofs.Basic
import Covenant.Proofs.Clause.Value
import Covenant.Report
import Covenant.Request
import Covenant.Session
import Covenant.Settings.Load
import Covenant.Settings.Merge
import Covenant.Subject
import Covenant.Term.Assign
import Covenant.Term.Basic
import Covenant.Term.Coerce
import Covenant.Term.Enclosure
import Covenant.Term.Linear
import Covenant.Term.Open
import Covenant.Term.Polynomial
import Covenant.Term.Search
import Covenant.Term.Solved
import Covenant.Term.Tree
import Covenant.Text.Blank
import Covenant.Text.Digit
import Covenant.Text.Identifier
import Covenant.Text.LowerCase
import Covenant.Text.Name
import Covenant.Text.NameTable.Ancient
import Covenant.Text.NameTable.Eastern
import Covenant.Text.NameTable.Pictures
import Covenant.Text.NameTable.Scripts
import Covenant.Text.NameTable.Symbols
import Covenant.Text.Normal
import Covenant.Text.NormalTable
import Covenant.Text.Pattern
import Covenant.Text.Pieces
import Covenant.Text.Printable
import Covenant.Text.Quoted
import Covenant.Text.Runs
import Covenant.Text.Utf8
import Covenant.Trace
import Covenant.Value.Basic
import Covenant.Value.Dump
import Covenant.Value.Graph
import Covenant.Value.Items
import Covenant.Value.Text
import Covenant.Verifier
import Covenant.Yaml.Cursor
import Covenant.Yaml.Moment
import Covenant.Yaml.Node
import Covenant.Yaml.Scalar
import Covenant.Yaml.Tag
import Covenant.Yaml.Token
import Covenant.Yaml.Value
import Covenant.Yaml.Written
import Covenant.Proofs.Clause.Terms
import Covenant.Proofs.Clause.Scope
import Covenant.Proofs.Model.State
import Covenant.Proofs.Model.Declared
import Covenant.Proofs.Model.Effects
import Covenant.Proofs.Model.Condition
import Covenant.Proofs.Clause.Names
import Covenant.Proofs.Model.ClassInvariant
import Covenant.Proofs.Clause.Evaluation
import Covenant.Proofs.Term.Assign
import Covenant.Proofs.Term.Tame
import Covenant.Proofs.Term.Enclosure
import Covenant.Proofs.Term.Search
import Covenant.Proofs.Clause.Divisors
import Covenant.Proofs.Model.Finite
import Covenant.Proofs.Engine.Verdict
import Covenant.Proofs.Model.UnspecifiedResult
import Covenant.Proofs.Run
import Covenant.Proofs.Verifier.Runs
import Covenant.Proofs.Verifier.Sessions
import Covenant.Proofs.Term.Ranks
import Covenant.Proofs.Clause.Formed
import Covenant.Proofs.Clause.Sorts
import Covenant.Proofs.Clause.Acceptance
import Covenant.Proofs.Clause.Clash
import Covenant.Proofs.Clause.Errors
import Covenant.Proofs.Model.Posed
import Covenant.Proofs.Engine.Doubt
import Covenant.Proofs.Model.Spelling
import Covenant.Proofs.Engine.Snapshot
import Covenant.Proofs.Engine.Shown
import Covenant.Proofs.Verifier.Site
import Covenant.Proofs.Files.Writing
import Covenant.Proofs.Verifier.Delivery
import Covenant.Proofs.Verifier.Sinks
import Covenant.Proofs.Verifier.Escapes
import Covenant.Proofs.Clause.Extension
import Covenant.Proofs.Model.Dependencies
import Covenant.Proofs.Engine.Relevant
import Covenant.Proofs.Verifier.Chains
import Covenant.Proofs.Settings.Sections
import Covenant.Proofs.Files.Alike
import Covenant.Proofs.Verifier.Lockstep
import Covenant.Proofs.Log
import Covenant.Proofs.CommandLine.InStep
import Covenant.Proofs.CommandLine.Verbosity
import Covenant.Proofs.Model.Readings
import Covenant.Proofs.Model.EffectTerms
import Covenant.Proofs.Model.Old
import Covenant.Proofs.Model.Width
import Covenant.Proofs.Model.Order
import Covenant.Proofs.Engine.Wider
import Covenant.Proofs.Value.Outline
import Covenant.Proofs.Value.Sharing
import Covenant.Proofs.Text.Pieces
import Covenant.Proofs.Model.Scopes
import Covenant.Proofs.Verifier.Options
import Covenant.Proofs.Model.Shape
import Covenant.Proofs.Engine.Malformed
import Covenant.Proofs.Value.Sameness
import Covenant.Proofs.Verifier.ClassFiles
import Covenant.Proofs.Value.Entries
import Covenant.Proofs.Settings.Merging
import Covenant.Proofs.Settings.Defaults
import Covenant.Proofs.Value.Rows
import Covenant.Proofs.Settings.InPlace
