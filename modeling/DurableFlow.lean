import DurableFlow.Binding.Basic
import DurableFlow.Binding.Collect
import DurableFlow.Catalog.Basic
import DurableFlow.Catalog.Builtin
import DurableFlow.Catalog.File
import DurableFlow.Command.Arguments
import DurableFlow.Command.Help
import DurableFlow.Command.Run
import DurableFlow.Command.Session
import DurableFlow.Compile
import DurableFlow.Decimal.Binary64
import DurableFlow.Decimal.Reading
import DurableFlow.Decimal.Shortest
import DurableFlow.Error
import DurableFlow.Expression.Path
import DurableFlow.Expression.Resolver
import DurableFlow.Expression.Template
import DurableFlow.Files.Tree
import DurableFlow.Fragment.Body
import DurableFlow.Fragment.Branch
import DurableFlow.Fragment.Envelope
import DurableFlow.Fragment.Flow
import DurableFlow.Fragment.Http
import DurableFlow.Fragment.Inference
import DurableFlow.Fragment.Loop
import DurableFlow.Fragment.Rules
import DurableFlow.Fragment.Storage
import DurableFlow.Fragment.Timing
import DurableFlow.Fragment.Transform
import DurableFlow.Graph.Basic
import DurableFlow.Graph.Cycle
import DurableFlow.Graph.Decode
import DurableFlow.Graph.Document
import DurableFlow.Graph.Order
import DurableFlow.Graph.Report
import DurableFlow.Json.Basic
import DurableFlow.Json.Convert
import DurableFlow.Json.Display
import DurableFlow.Json.Equal
import DurableFlow.Json.Quoted
import DurableFlow.Json.Reader
import DurableFlow.Json.Writer
import DurableFlow.Main
import DurableFlow.Module.Descriptor
import DurableFlow.Module.Name
import DurableFlow.Module.Skeleton
import DurableFlow.Module.Source
import DurableFlow.Module.Tool
import DurableFlow.Outcome
import DurableFlow.Pattern.Basic
import DurableFlow.Pattern.Match
import DurableFlow.Pattern.Reader
import DurableFlow.Proofs.Compile.Defined
import DurableFlow.Proofs.Compile.Success
import DurableFlow.Proofs.Graph.Detection
import DurableFlow.Proofs.Graph.Link
import DurableFlow.Proofs.Graph.Placement
import DurableFlow.Proofs.Graph.Search
import DurableFlow.Proofs.Json.Quoted
import DurableFlow.Proofs.Module.Layout
import DurableFlow.Proofs.Module.Quiet
import DurableFlow.Proofs.Module.Scan
import DurableFlow.Proofs.Module.Sections
import DurableFlow.Proofs.Outcome
import DurableFlow.Proofs.Step.Identifier
import DurableFlow.Proofs.Step.Naming
import DurableFlow.Proofs.Text.Indent
import DurableFlow.Proofs.Text.Mark
import DurableFlow.Record.Checked
import DurableFlow.Record.Issue
import DurableFlow.Record.Numeral
import DurableFlow.Schema.Basic
import DurableFlow.Schema.Check
import DurableFlow.Settings.Basic
import DurableFlow.Settings.Store
import DurableFlow.Step.Name
import DurableFlow.Text.Blank
import DurableFlow.Text.Case
import DurableFlow.Text.CaseTable
import DurableFlow.Text.CharacterName
import DurableFlow.Text.Digit
import DurableFlow.Text.Fold
import DurableFlow.Text.Identifier
import DurableFlow.Text.Lines
import DurableFlow.Text.Printable
import DurableFlow.Text.Ranges
import DurableFlow.Text.Split
import DurableFlow.Text.Terminal
import DurableFlow.Text.Utf8
import DurableFlow.Text.Word
import DurableFlow.Proofs.Compile.Refusal
import DurableFlow.Proofs.Module.Comment
import DurableFlow.Proofs.Fragment.Shape
import DurableFlow.Proofs.Binding.Grouped
import DurableFlow.Proofs.Binding.Name
import DurableFlow.Proofs.Binding.Required
import DurableFlow.Proofs.Code.Access
import DurableFlow.Proofs.Code.Silent
import DurableFlow.Proofs.Code.Expression
import DurableFlow.Proofs.Code.Line
import DurableFlow.Proofs.Code.Generated
import DurableFlow.Proofs.Code.Resource
import DurableFlow.Proofs.Code.Spelled
import DurableFlow.Proofs.Binding.Collected
import DurableFlow.Proofs.Schema.Accepted
import DurableFlow.Proofs.Schema.Unstopped
import DurableFlow.Proofs.Graph.Validity
import DurableFlow.Proofs.Compile.Escape
import DurableFlow.Proofs.Module.Segment
import DurableFlow.Proofs.Module.Recovered
import DurableFlow.Proofs.Binding.Overlay
import DurableFlow.Proofs.Graph.Acceptance
import DurableFlow.Proofs.Settings.Isolation
import DurableFlow.Proofs.Json.Spelling
import DurableFlow.Proofs.Files.Writing
import DurableFlow.Proofs.Settings.Stored
import DurableFlow.Proofs.Command.Setting
import DurableFlow.Proofs.Graph.Structure
import DurableFlow.Proofs.Expression.Accessor
import DurableFlow.Proofs.Expression.Decomposition
import DurableFlow.Proofs.Expression.Literal
import DurableFlow.Proofs.Fragment.Renaming
import DurableFlow.Proofs.Fragment.References
import DurableFlow.Proofs.Decimal.Rounding
import DurableFlow.Proofs.Decimal.Printed
import DurableFlow.Proofs.Json.Number
import DurableFlow.Proofs.Json.Written
import DurableFlow.Proofs.Record.Reading
import DurableFlow.Proofs.Catalog.Stored
import DurableFlow.Proofs.Catalog.Saved
import DurableFlow.Proofs.Text.Class
import DurableFlow.Proofs.Text.Margin
import DurableFlow.Proofs.Graph.Release
import DurableFlow.Proofs.Decimal.Digits
import DurableFlow.Proofs.Settings.Override
import DurableFlow.Proofs.Json.Unambiguous
import DurableFlow.Proofs.Expression.Plain
import DurableFlow.Proofs.Fragment.Statement
import DurableFlow.Proofs.Text.Split
import DurableFlow.Proofs.Files.Directories
import DurableFlow.Proofs.Files.Replacing
import DurableFlow.Proofs.Settings.Saved
import DurableFlow.Proofs.Expression.Reference
import DurableFlow.Proofs.Graph.EdgeId
import DurableFlow.Proofs.Step.Kept
import DurableFlow.Proofs.Module.ObjectLiteral
import DurableFlow.Proofs.Module.Arguments
import DurableFlow.Proofs.Compile.Passthrough
import DurableFlow.Proofs.Decimal.Whole
import DurableFlow.Proofs.Expression.MemberChain
import DurableFlow.Proofs.Expression.Segment
import DurableFlow.Proofs.Fragment.LoopName
import DurableFlow.Proofs.Fragment.Operand
import DurableFlow.Proofs.Fragment.Recorded
import DurableFlow.Proofs.Module.Token
import DurableFlow.Proofs.Text.Case
import DurableFlow.Proofs.Pattern.Match
import DurableFlow.Proofs.Module.Name
import DurableFlow.Proofs.Graph.Alike
import DurableFlow.Proofs.Fragment.Alike
import DurableFlow.Proofs.Schema.Memberwise
import DurableFlow.Proofs.Record.Related
import DurableFlow.Proofs.Graph.Moved
import DurableFlow.Proofs.Compile.ConfigPlace
