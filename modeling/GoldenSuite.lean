import GoldenSuite.Clock
import GoldenSuite.Command.Flag
import GoldenSuite.Command.Help
import GoldenSuite.Command.Request
import GoldenSuite.Command.Run
import GoldenSuite.Command.Settings
import GoldenSuite.Config
import GoldenSuite.Config.File
import GoldenSuite.Diff.Script
import GoldenSuite.Diff.Text
import GoldenSuite.Discovery
import GoldenSuite.Duration
import GoldenSuite.Execution.Basic
import GoldenSuite.Execution.Outcome
import GoldenSuite.Execution.Scripted
import GoldenSuite.Execution.Status
import GoldenSuite.Fault
import GoldenSuite.FileTree.Access
import GoldenSuite.FileTree.Basic
import GoldenSuite.FileTree.Resolve
import GoldenSuite.Host.ByteText
import GoldenSuite.Host.Condition
import GoldenSuite.Host.Escape
import GoldenSuite.Host.Executor
import GoldenSuite.Host.Format
import GoldenSuite.Host.Launch
import GoldenSuite.Host.System
import GoldenSuite.Host.Utility
import GoldenSuite.Host.World
import GoldenSuite.Layout
import GoldenSuite.Level
import GoldenSuite.Log
import GoldenSuite.Main
import GoldenSuite.Path
import GoldenSuite.Pattern.Basic
import GoldenSuite.Pattern.CharSet
import GoldenSuite.Pattern.Reader
import GoldenSuite.Report
import GoldenSuite.Run
import GoldenSuite.RunId
import GoldenSuite.Scratch
import GoldenSuite.Shell.Arithmetic
import GoldenSuite.Shell.Builtin
import GoldenSuite.Shell.Evaluation
import GoldenSuite.Shell.Field
import GoldenSuite.Shell.Glob
import GoldenSuite.Shell.Grammar
import GoldenSuite.Shell.Reader
import GoldenSuite.Shell.Source
import GoldenSuite.Shell.State
import GoldenSuite.Signal
import GoldenSuite.Table
import GoldenSuite.Tally
import GoldenSuite.TestCase
import GoldenSuite.Text.Bytes
import GoldenSuite.Text.CaseMap
import GoldenSuite.Text.Category
import GoldenSuite.Text.Quoted
import GoldenSuite.Text.RangeTable
import GoldenSuite.Text.Script
import GoldenSuite.Text.Width
import GoldenSuite.Verdict
import GoldenSuite.Yaml.Cursor
import GoldenSuite.Yaml.Decoding
import GoldenSuite.Yaml.Document
import GoldenSuite.Yaml.Property
import GoldenSuite.Yaml.ScalarKind
import GoldenSuite.Yaml.ScalarText
import GoldenSuite.Yaml.Source
import GoldenSuite.Yaml.Timestamp
import GoldenSuite.Yaml.Token
import GoldenSuite.Yaml.TokenQueue
import GoldenSuite.Proofs.Discovery.Cases
import GoldenSuite.Proofs.Path.Joining
import GoldenSuite.Proofs.Discovery.Exactness
import GoldenSuite.Proofs.Discovery.Distinctness
import GoldenSuite.Proofs.Discovery.Order
import GoldenSuite.Proofs.Discovery.Newcomer
import GoldenSuite.Proofs.Run.Recording
import GoldenSuite.Proofs.Run.Prefix
import GoldenSuite.Proofs.FileTree.Changes
import GoldenSuite.Proofs.FileTree.Walking
import GoldenSuite.Proofs.Scratch.Changes
import GoldenSuite.Proofs.Run.Outcome
import GoldenSuite.Proofs.Run.Passing
import GoldenSuite.Proofs.Run.Printing
import GoldenSuite.Proofs.Command.ExitCode
import GoldenSuite.Proofs.Text.Order
import GoldenSuite.Proofs.FileTree.WellFormed
import GoldenSuite.Proofs.Path.Cleaning
import GoldenSuite.Proofs.FileTree.Descent
import GoldenSuite.Proofs.FileTree.Straight
import GoldenSuite.Proofs.Scratch.Reset
import GoldenSuite.Proofs.Run.Keeping
import GoldenSuite.Proofs.Run.Frame
import GoldenSuite.Proofs.Run.Outputs
import GoldenSuite.Proofs.FileTree.Same
import GoldenSuite.Proofs.Fault.Refusal
import GoldenSuite.Proofs.Scratch.Residue
import GoldenSuite.Proofs.Run.Parallel
import GoldenSuite.Proofs.Run.Alike
import GoldenSuite.Proofs.Run.Residue
import GoldenSuite.Proofs.Run.Abort
import GoldenSuite.Proofs.Command.Fatal
import GoldenSuite.Proofs.FileTree.Unlinked
import GoldenSuite.Proofs.Run.Unlinked
import GoldenSuite.Proofs.Run.Isolation
import GoldenSuite.Proofs.Run.StrictExit
import GoldenSuite.Proofs.Run.Transcript
import GoldenSuite.Proofs.Run.Twins
import GoldenSuite.Proofs.Report.Coloring
import GoldenSuite.Proofs.Command.Presentation
import GoldenSuite.Proofs.Run.Priority
import GoldenSuite.Proofs.Execution.Classification
import GoldenSuite.Proofs.Execution.Deadline
import GoldenSuite.Proofs.Discovery.Arrival
import GoldenSuite.Proofs.Command.Layering
import GoldenSuite.Proofs.Report.Differences
import GoldenSuite.Proofs.Scratch.Postcondition
import GoldenSuite.Proofs.Fault.Nesting
import GoldenSuite.Proofs.Layout.Standard
import GoldenSuite.Proofs.Level.Language
import GoldenSuite.Proofs.Duration.Display
