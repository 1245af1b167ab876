import CallMigration.Api
import CallMigration.CallSite
import CallMigration.CallSite.Binding
import CallMigration.Check
import CallMigration.Comment
import CallMigration.Config
import CallMigration.Diff
import CallMigration.Diff.Hunk
import CallMigration.Diff.Script
import CallMigration.Disk
import CallMigration.Edit
import CallMigration.Edit.Batch
import CallMigration.Edit.Selection
import CallMigration.Explanation
import CallMigration.Expression
import CallMigration.FileTree
import CallMigration.Finding
import CallMigration.Finding.Application
import CallMigration.Finding.Document
import CallMigration.Finding.Rendering
import CallMigration.ImportTable
import CallMigration.Inlining
import CallMigration.Json
import CallMigration.Json.Decoder
import CallMigration.Json.Printer
import CallMigration.Json.Reader
import CallMigration.Loading
import CallMigration.Machine
import CallMigration.Main
import CallMigration.Manifest.Decoding
import CallMigration.Manifest.Loaded
import CallMigration.Manifest.Record
import CallMigration.NewImports
import CallMigration.Options
import CallMigration.Options.Argument
import CallMigration.Options.Reader
import CallMigration.Ordering
import CallMigration.Path
import CallMigration.Pattern
import CallMigration.Pattern.CharClass
import CallMigration.Pattern.Glob
import CallMigration.Pattern.Regular
import CallMigration.Position
import CallMigration.Proofs.CallSite
import CallMigration.Proofs.Check
import CallMigration.Proofs.Check.Failure
import CallMigration.Proofs.Check.Modes
import CallMigration.Proofs.Check.Revision
import CallMigration.Proofs.Comment
import CallMigration.Proofs.Comment.Grammar
import CallMigration.Proofs.Diff.Hunk
import CallMigration.Proofs.Diff.Patch
import CallMigration.Proofs.Diff.Patcher
import CallMigration.Proofs.Diff.Shortest
import CallMigration.Proofs.Diff.Shown
import CallMigration.Proofs.Edit.Batch
import CallMigration.Proofs.Edit.FirstCome
import CallMigration.Proofs.Edit.Selection
import CallMigration.Proofs.Edit.Splice
import CallMigration.Proofs.Edit.Validity
import CallMigration.Proofs.Expression
import CallMigration.Proofs.FileTree
import CallMigration.Proofs.Finding.Agreement
import CallMigration.Proofs.Finding.Application
import CallMigration.Proofs.Finding.Chain
import CallMigration.Proofs.Finding.Imports
import CallMigration.Proofs.Finding.Insertion
import CallMigration.Proofs.ImportTable.Insertion
import CallMigration.Proofs.ImportTable.Place
import CallMigration.Proofs.ImportTable.Qualify
import CallMigration.Proofs.ImportTable.Reading
import CallMigration.Proofs.ImportTable.Shadowing
import CallMigration.Proofs.ImportTable.Stability
import CallMigration.Proofs.Inlining
import CallMigration.Proofs.Inlining.Delegation
import CallMigration.Proofs.Inlining.Deletion
import CallMigration.Proofs.Inlining.Effects
import CallMigration.Proofs.Inlining.Gates
import CallMigration.Proofs.Inlining.Narrowing
import CallMigration.Proofs.Inlining.Verification
import CallMigration.Proofs.Loading
import CallMigration.Proofs.Machine
import CallMigration.Proofs.Manifest.Asking
import CallMigration.Proofs.Manifest.Comments
import CallMigration.Proofs.Manifest.Confinement
import CallMigration.Proofs.Manifest.Independence
import CallMigration.Proofs.Manifest.Record
import CallMigration.Proofs.Manifest.Usable
import CallMigration.Proofs.Manifest.Validity
import CallMigration.Proofs.Options
import CallMigration.Proofs.Position
import CallMigration.Proofs.Settings
import CallMigration.Proofs.Substitution.Identifier
import CallMigration.Proofs.Substitution.Listing
import CallMigration.Proofs.Substitution.Literal
import CallMigration.Proofs.Substitution.Occurrence
import CallMigration.Proofs.Substitution.Omission
import CallMigration.Proofs.Substitution.Separation
import CallMigration.Proofs.Substitution.Standing
import CallMigration.Proofs.Substitution.Words
import CallMigration.Proofs.Template.ThisQualifier
import CallMigration.Proofs.Text.Lines
import CallMigration.Proofs.Text.Scan
import CallMigration.Proofs.Text.Utf8
import CallMigration.QualifiedName
import CallMigration.Readers
import CallMigration.Readers.Standard
import CallMigration.Response
import CallMigration.Session
import CallMigration.Settings
import CallMigration.Shell.Commands
import CallMigration.Shell.Condition
import CallMigration.Shell.Evaluation
import CallMigration.Shell.Files
import CallMigration.Shell.Grep
import CallMigration.Shell.Reader
import CallMigration.Shell.Script
import CallMigration.Shell.Utility
import CallMigration.Substitution
import CallMigration.Template
import CallMigration.Template.Decoding
import CallMigration.Template.ThisQualifier
import CallMigration.Text.Alphabetic
import CallMigration.Text.Bytes
import CallMigration.Text.CharClass
import CallMigration.Text.CodeRange
import CallMigration.Text.HexDigit
import CallMigration.Text.Lines
import CallMigration.Text.Mark
import CallMigration.Text.Number
import CallMigration.Text.Recent
import CallMigration.Text.Replace
import CallMigration.Text.Scan
import CallMigration.Text.Trim
import CallMigration.TextRange
import CallMigration.Toml
import CallMigration.Toml.DateTime
import CallMigration.Toml.Decoder
import CallMigration.Toml.Number
import CallMigration.Toml.Quoted
import CallMigration.Toml.Reader
import CallMigration.TypeDeclaration
import CallMigration.Verification
