import ScriptRunner.Artifact.Basic
import ScriptRunner.Artifact.LetteredNames
import ScriptRunner.Artifact.Session
import ScriptRunner.CommandLine.Ending
import ScriptRunner.CommandLine.Misuse
import ScriptRunner.CommandLine.Options
import ScriptRunner.CommandLine.Preview
import ScriptRunner.CommandLine.Run
import ScriptRunner.CommandLine.ScriptArgument
import ScriptRunner.CommandLine.Toolkit
import ScriptRunner.Compilation
import ScriptRunner.Console
import ScriptRunner.Decimal.Shortest
import ScriptRunner.Decimal.Written
import ScriptRunner.Expression.CharacterName
import ScriptRunner.Expression.CharacterNameTable
import ScriptRunner.Expression.Fault
import ScriptRunner.Expression.Grammar
import ScriptRunner.Expression.Literal
import ScriptRunner.Expression.Number
import ScriptRunner.Expression.Parse
import ScriptRunner.Expression.Peg
import ScriptRunner.Expression.TextLiteral
import ScriptRunner.Expression.Token
import ScriptRunner.Expression.Tokens
import ScriptRunner.Expression.Tree
import ScriptRunner.Expression.Word
import ScriptRunner.Failure
import ScriptRunner.FileTree.Access
import ScriptRunner.FileTree.Basic
import ScriptRunner.FileTree.RealPath
import ScriptRunner.FileTree.Route
import ScriptRunner.FileUrl
import ScriptRunner.Interpreter.Basic
import ScriptRunner.Interpreter.Line
import ScriptRunner.Interpreter.Load
import ScriptRunner.Interpreter.Memory
import ScriptRunner.Interpreter.Name
import ScriptRunner.Interpreter.Raised
import ScriptRunner.Literate.Description
import ScriptRunner.Literate.Dialect
import ScriptRunner.Literate.Document
import ScriptRunner.LogHub
import ScriptRunner.LogLevel
import ScriptRunner.Machine
import ScriptRunner.Main
import ScriptRunner.OsError
import ScriptRunner.Path
import ScriptRunner.Proofs.Artifact.Creation
import ScriptRunner.Proofs.Artifact.Sessions
import ScriptRunner.Proofs.CommandLine.Arguments
import ScriptRunner.Proofs.CommandLine.Endings
import ScriptRunner.Proofs.CommandLine.Preview
import ScriptRunner.Proofs.CommandLine.Requests
import ScriptRunner.Proofs.CommandLine.StandardInput
import ScriptRunner.Proofs.CommandLine.Toolkit
import ScriptRunner.Proofs.Compilation.Commands
import ScriptRunner.Proofs.Compilation.Failures
import ScriptRunner.Proofs.Compilation.Reports
import ScriptRunner.Proofs.Compilation.Runs
import ScriptRunner.Proofs.FileTree.Files
import ScriptRunner.Proofs.FileTree.Place
import ScriptRunner.Proofs.FileTree.Plain
import ScriptRunner.Proofs.FileTree.RealPath
import ScriptRunner.Proofs.FileTree.Removal
import ScriptRunner.Proofs.FileTree.Shape
import ScriptRunner.Proofs.FileUrl.Quoting
import ScriptRunner.Proofs.Interpreter.Blanking
import ScriptRunner.Proofs.Interpreter.Keeping
import ScriptRunner.Proofs.Interpreter.Restoration
import ScriptRunner.Proofs.Literate.Alignment
import ScriptRunner.Proofs.Literate.Blocks
import ScriptRunner.Proofs.Literate.Comments
import ScriptRunner.Proofs.Literate.Continuation
import ScriptRunner.Proofs.Literate.Encoding
import ScriptRunner.Proofs.Literate.Fold
import ScriptRunner.Proofs.Literate.Indentation
import ScriptRunner.Proofs.Literate.LineTerminators
import ScriptRunner.Proofs.Literate.Lockstep
import ScriptRunner.Proofs.Literate.Quoting
import ScriptRunner.Proofs.Literate.Wrapping
import ScriptRunner.Proofs.LogHub.Changes
import ScriptRunner.Proofs.Machine.Frame
import ScriptRunner.Proofs.Machine.Launches
import ScriptRunner.Proofs.Resolution.Cleanup
import ScriptRunner.Proofs.Resolution.Deeds
import ScriptRunner.Proofs.Resolution.Failures
import ScriptRunner.Proofs.Resolution.Interleaving
import ScriptRunner.Proofs.Resolution.Loading
import ScriptRunner.Proofs.Resolution.Meaning
import ScriptRunner.Proofs.Resolution.Outputs
import ScriptRunner.Proofs.Resolution.Pipeline
import ScriptRunner.Proofs.Resolution.Preparation
import ScriptRunner.Proofs.Resolution.Processes
import ScriptRunner.Proofs.Resolution.Returns
import ScriptRunner.Proofs.Resolution.Survival
import ScriptRunner.Proofs.Settings.Overriding
import ScriptRunner.Proofs.Settings.Validity
import ScriptRunner.Proofs.Template.Filling
import ScriptRunner.Proofs.Text.Declaration
import ScriptRunner.Proofs.Text.PhysicalLines
import ScriptRunner.Proofs.Text.Split
import ScriptRunner.Resolver
import ScriptRunner.Settings
import ScriptRunner.Shell.Basic
import ScriptRunner.Shell.Output
import ScriptRunner.Shell.Run
import ScriptRunner.Source
import ScriptRunner.Template.Basic
import ScriptRunner.Template.Field
import ScriptRunner.Template.Item
import ScriptRunner.Template.Layout
import ScriptRunner.Text.Blank
import ScriptRunner.Text.CaseTable
import ScriptRunner.Text.CategoryTable
import ScriptRunner.Text.Cell
import ScriptRunner.Text.CellTable
import ScriptRunner.Text.ColorTable
import ScriptRunner.Text.Composition
import ScriptRunner.Text.CompositionTable
import ScriptRunner.Text.Console
import ScriptRunner.Text.ControlSequence
import ScriptRunner.Text.Digit
import ScriptRunner.Text.Identifier
import ScriptRunner.Text.LetterCase
import ScriptRunner.Text.Line
import ScriptRunner.Text.Markup
import ScriptRunner.Text.PrintableTable
import ScriptRunner.Text.Quoted
import ScriptRunner.Text.Style
import ScriptRunner.Text.Utf8
import ScriptRunner.Transpiler
import ScriptRunner.Value
