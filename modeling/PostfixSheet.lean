import PostfixSheet.Address.Basic
import PostfixSheet.Address.Notation
import PostfixSheet.Address.Set
import PostfixSheet.CommandLine.Arguments
import PostfixSheet.CommandLine.Run
import PostfixSheet.Delimited.Format
import PostfixSheet.Delimited.Rows
import PostfixSheet.Delimited.Sheet
import PostfixSheet.Document
import PostfixSheet.Files.FileSystem
import PostfixSheet.Formula.Evaluation
import PostfixSheet.Formula.Fault
import PostfixSheet.Formula.Token
import PostfixSheet.Formula.Value
import PostfixSheet.Main
import PostfixSheet.Number.Arithmetic
import PostfixSheet.Number.Binary64
import PostfixSheet.Number.Literal
import PostfixSheet.Number.Rounding
import PostfixSheet.Number.Shortest
import PostfixSheet.Number.Spelling
import PostfixSheet.Number.Tenths
import PostfixSheet.Proofs.Analysis.Completion
import PostfixSheet.Proofs.Analysis.Dependencies
import PostfixSheet.Proofs.Analysis.Flags
import PostfixSheet.Proofs.Evaluation.History
import PostfixSheet.Proofs.Evaluation.Lookup
import PostfixSheet.Proofs.Evaluation.Recalculation
import PostfixSheet.Proofs.Evaluation.Schedule
import PostfixSheet.Proofs.Evaluation.Settled
import PostfixSheet.Proofs.References
import PostfixSheet.Proofs.Walk.Invariant
import PostfixSheet.Proofs.Walk.Path
import PostfixSheet.Proofs.Walk.Reading
import PostfixSheet.Proofs.Walk.Run
import PostfixSheet.Settings.Assignments
import PostfixSheet.Settings.Load
import PostfixSheet.Sheet.Basic
import PostfixSheet.Sheet.Passes
import PostfixSheet.Sheet.Traversal
import PostfixSheet.Table
import PostfixSheet.Text.Blank
import PostfixSheet.Text.CodeRange
import PostfixSheet.Text.Digits
import PostfixSheet.Text.ExtendingMark
import PostfixSheet.Text.Lines
import PostfixSheet.Text.Printable
import PostfixSheet.Text.Quoted
import PostfixSheet.Proofs.Walk.Search
import PostfixSheet.Proofs.Analysis.Findings
import PostfixSheet.Proofs.Analysis.Closure
import PostfixSheet.Proofs.Evaluation.Causes
import PostfixSheet.Proofs.Evaluation.Inputs
import PostfixSheet.Proofs.Evaluation.Confluence
import PostfixSheet.Proofs.Evaluation.Locality
import PostfixSheet.Proofs.Document.Evaluation
import PostfixSheet.Proofs.Document.Session
import PostfixSheet.Proofs.Settings.Clash
import PostfixSheet.Proofs.Number.Rounding
import PostfixSheet.Proofs.Number.Tenths
import PostfixSheet.Proofs.Number.Shortest
import PostfixSheet.Proofs.Number.Zeros
import PostfixSheet.Proofs.Number.Reading
import PostfixSheet.Proofs.Formula.Words
import PostfixSheet.Proofs.Evaluation.Finiteness
import PostfixSheet.Proofs.Document.Display
import PostfixSheet.Proofs.Formula.Likeness
import PostfixSheet.Proofs.Evaluation.Substitution
import PostfixSheet.Proofs.Delimited.Rows
import PostfixSheet.Proofs.Document.Shape
import PostfixSheet.Proofs.Document.Rerun
import PostfixSheet.Proofs.Attempts
import PostfixSheet.Proofs.Files.Writing
import PostfixSheet.Proofs.CommandLine.Effects
import PostfixSheet.Proofs.Settings.Override
import PostfixSheet.Proofs.Formula.Tree
import PostfixSheet.Proofs.Formula.Height
import PostfixSheet.Proofs.Address.Reading
import PostfixSheet.Proofs.Formula.Grammar
import PostfixSheet.Proofs.Address.RoundTrip
import PostfixSheet.Proofs.Text.Lines
import PostfixSheet.Proofs.Delimited.Lines
import PostfixSheet.Proofs.Document.Fields
import PostfixSheet.Proofs.Number.Coarse
import PostfixSheet.Proofs.Number.FixedPoint
import PostfixSheet.Proofs.Walk.Records
import PostfixSheet.Proofs.Delimited.Spacing
import PostfixSheet.Proofs.Evaluation.Respelling
import PostfixSheet.Proofs.Document.Spacing
import PostfixSheet.Proofs.Evaluation.Footprint
import PostfixSheet.Proofs.Labels.Basic
import PostfixSheet.Proofs.Labels.Walk
import PostfixSheet.Proofs.Labels.Heads
import PostfixSheet.Proofs.Labels.Passes
