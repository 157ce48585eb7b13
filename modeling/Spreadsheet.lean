import Spreadsheet.Address.Basic
import Spreadsheet.Address.Column
import Spreadsheet.Address.Label
import Spreadsheet.Address.LabelError
import Spreadsheet.Cell.Basic
import Spreadsheet.Cell.Record
import Spreadsheet.CellError
import Spreadsheet.CommandLine.Files
import Spreadsheet.CommandLine.Program
import Spreadsheet.CommandLine.Request
import Spreadsheet.Decimal.Digits
import Spreadsheet.Decimal.Layout
import Spreadsheet.Decimal.Numeral
import Spreadsheet.Decimal.Shortest
import Spreadsheet.Dependency.Graph
import Spreadsheet.Dependency.Search
import Spreadsheet.Dependency.Traversal
import Spreadsheet.Formula.Evaluation
import Spreadsheet.Formula.Expression
import Spreadsheet.Formula.Lexer
import Spreadsheet.Formula.Machine
import Spreadsheet.Formula.Operator
import Spreadsheet.Formula.Token
import Spreadsheet.Json.Basic
import Spreadsheet.Json.Reader
import Spreadsheet.Json.StringLiteral
import Spreadsheet.Json.Writer
import Spreadsheet.Main
import Spreadsheet.Outcome
import Spreadsheet.Proofs.Address.Column
import Spreadsheet.Proofs.Address.Grammar
import Spreadsheet.Proofs.Address.Label
import Spreadsheet.Proofs.Address.Words
import Spreadsheet.Proofs.Binary64.Packing
import Spreadsheet.Proofs.Binary64.Rounding
import Spreadsheet.Proofs.Binary64.Scientific
import Spreadsheet.Proofs.Binary64.Signs
import Spreadsheet.Proofs.Cell.Error
import Spreadsheet.Proofs.Cell.Record
import Spreadsheet.Proofs.Decimal.Digits
import Spreadsheet.Proofs.Decimal.Numerals
import Spreadsheet.Proofs.Decimal.Rereading
import Spreadsheet.Proofs.Decimal.Shortest
import Spreadsheet.Proofs.Decimal.Spelling
import Spreadsheet.Proofs.Dependency.Graph
import Spreadsheet.Proofs.Dependency.Marking
import Spreadsheet.Proofs.Dependency.Paths
import Spreadsheet.Proofs.Dependency.Search
import Spreadsheet.Proofs.Dependency.Termination
import Spreadsheet.Proofs.Dependency.Traversal
import Spreadsheet.Proofs.Formula.Arithmetic
import Spreadsheet.Proofs.Formula.Certification
import Spreadsheet.Proofs.Formula.Classification
import Spreadsheet.Proofs.Formula.Computation
import Spreadsheet.Proofs.Formula.Dependence
import Spreadsheet.Proofs.Formula.Errors
import Spreadsheet.Proofs.Formula.Exclusion
import Spreadsheet.Proofs.Formula.Groups
import Spreadsheet.Proofs.Formula.Leftmost
import Spreadsheet.Proofs.Formula.Levels
import Spreadsheet.Proofs.Formula.Lexemes
import Spreadsheet.Proofs.Formula.LongestMatch
import Spreadsheet.Proofs.Formula.Machine
import Spreadsheet.Proofs.Formula.Repair
import Spreadsheet.Proofs.Formula.Scanning
import Spreadsheet.Proofs.Formula.Spelling
import Spreadsheet.Proofs.Formula.Tokenization
import Spreadsheet.Proofs.Formula.UnexpectedCharacters
import Spreadsheet.Proofs.Formula.Unmatched
import Spreadsheet.Proofs.Json.Lexing
import Spreadsheet.Proofs.Json.Literals
import Spreadsheet.Proofs.Json.Numbers
import Spreadsheet.Proofs.Json.Rereading
import Spreadsheet.Proofs.Sheet.Attribution
import Spreadsheet.Proofs.Sheet.Calculation
import Spreadsheet.Proofs.Sheet.Cells
import Spreadsheet.Proofs.Sheet.Detection
import Spreadsheet.Proofs.Sheet.Determinacy
import Spreadsheet.Proofs.Sheet.Extension
import Spreadsheet.Proofs.Sheet.Formulas
import Spreadsheet.Proofs.Sheet.Frame
import Spreadsheet.Proofs.Sheet.History
import Spreadsheet.Proofs.Sheet.Incremental
import Spreadsheet.Proofs.Sheet.Independence
import Spreadsheet.Proofs.Sheet.Loading
import Spreadsheet.Proofs.Sheet.Lookup
import Spreadsheet.Proofs.Sheet.Propagation
import Spreadsheet.Proofs.Sheet.References
import Spreadsheet.Proofs.Sheet.Reports
import Spreadsheet.Proofs.Sheet.Spelling
import Spreadsheet.Proofs.Sheet.Statistics
import Spreadsheet.Proofs.Sheet.Tracking
import Spreadsheet.Proofs.Text.Bytes
import Spreadsheet.Proofs.Text.Spans
import Spreadsheet.Sheet.Basic
import Spreadsheet.Sheet.Calculation
import Spreadsheet.Sheet.History
import Spreadsheet.Sheet.Report
import Spreadsheet.Sheet.Snapshot
import Spreadsheet.Store
import Spreadsheet.Text.Blank
