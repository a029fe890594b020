import ContractLint.Analysis.Report
import ContractLint.Analysis.Results
import ContractLint.Assoc
import ContractLint.Detector.Flag
import ContractLint.Detector.Kind
import ContractLint.Detector.Reentrancy
import ContractLint.Diagnostic
import ContractLint.Dump.Context
import ContractLint.Dump.Error
import ContractLint.Dump.Function
import ContractLint.Dump.Item
import ContractLint.Dump.Program
import ContractLint.File
import ContractLint.Json.Reader
import ContractLint.Json.Writer
import ContractLint.Manifest
import ContractLint.Model.Body
import ContractLint.Model.Graph
import ContractLint.Model.Item
import ContractLint.Model.Place
import ContractLint.Model.RawSpan
import ContractLint.Model.Span
import ContractLint.Number.Double
import ContractLint.Number.Order
import ContractLint.Number.Reading
import ContractLint.Number.Shortest
import ContractLint.SExpr.Basic
import ContractLint.SExpr.Reader
import ContractLint.Signature.Config
import ContractLint.Signature.Error
import ContractLint.Signature.Mapping
import ContractLint.Signature.Path
import ContractLint.Signature.Tables
import ContractLint.Text.Alphanumeric
import ContractLint.Text.Basic
import ContractLint.Text.Blank
import ContractLint.Text.Digit
import ContractLint.Text.Lines
import ContractLint.Text.Printable
import ContractLint.Text.Quoted
import ContractLint.Text.Range
import ContractLint.Text.Utf8
import ContractLint.Value.Basic
import ContractLint.Value.Conversion
import ContractLint.Value.Display
import ContractLint.Value.Equality
import ContractLint.Value.Key
import ContractLint.Value.Order
import ContractLint.Proofs.Assoc
import ContractLint.Proofs.Reentrancy.History
import ContractLint.Proofs.Analysis.Success
import ContractLint.Proofs.Reentrancy.Visit
import ContractLint.Proofs.Dump.Constants
import ContractLint.Proofs.Dump.Overflow
import ContractLint.Proofs.Signature.Merge
import ContractLint.Proofs.Dump.Acceptance
import ContractLint.Proofs.Dump.Faithful
import ContractLint.Proofs.Analysis.Flags
import ContractLint.Proofs.Analysis.References
import ContractLint.Proofs.Reentrancy.Reordering
import ContractLint.Proofs.Reentrancy.Simulation
import ContractLint.Proofs.Analysis.Numbering
import ContractLint.Proofs.Analysis.CallForms
import ContractLint.Proofs.Analysis.Isolation
import ContractLint.Proofs.Analysis.Aggregation
import ContractLint.Proofs.Analysis.Locals
import ContractLint.Proofs.Dump.Listing
import ContractLint.Proofs.Signature.Configuration
import ContractLint.Proofs.Signature.Erasure
import ContractLint.Proofs.Dump.Location
import ContractLint.Proofs.Json.Literals
import ContractLint.Proofs.Json.RoundTrip
import ContractLint.Proofs.Analysis.Lines
import ContractLint.Proofs.Reentrancy.Retraction
import ContractLint.Proofs.Reentrancy.Traversal
import ContractLint.Proofs.Model.Graph
import ContractLint.Proofs.Model.Span
import ContractLint.Proofs.Model.Place
import ContractLint.Proofs.SExpr.Reading
import ContractLint.Proofs.Signature.Brackets
import ContractLint.Proofs.Signature.Agreement
