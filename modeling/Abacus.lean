import Abacus.Text.Blank
import Abacus.Text.CaseTable
import Abacus.Text.DecimalDigit
import Abacus.Text.Fill
import Abacus.Text.LetterCase
import Abacus.Text.Lines
import Abacus.Text.Numeral
import Abacus.Text.Printable
import Abacus.Text.Quoted
import Abacus.Text.WordChar
import Abacus.Decimal
import Abacus.Binary64.Basic
import Abacus.Binary64.Rounding
import Abacus.Binary64.Arithmetic
import Abacus.Binary64.Text
import Abacus.Number.Basic
import Abacus.Number.Text
import Abacus.Json.Basic
import Abacus.Json.Literal
import Abacus.Json.Parser
import Abacus.Json.Printer
import Abacus.Json.Schema
import Abacus.Template.Layout
import Abacus.Template.Conversion
import Abacus.Template.Expansion
import Abacus.Expression.Token
import Abacus.Expression.Operators
import Abacus.Expression.Error
import Abacus.Expression.Plan
import Abacus.Expression.Infix
import Abacus.Expression.Postfix
import Abacus.Expression.Reduction
import Abacus.Expression.Notation
import Abacus.Expression.Calculation
import Abacus.Log
import Abacus.Settings
import Abacus.Results.Rendering
import Abacus.Results.Document
import Abacus.Api.Request
import Abacus.Api.Service
import Abacus.CommandLine.Switch
import Abacus.CommandLine.Invocation
import Abacus.CommandLine.Help
import Abacus.CommandLine.Run
import Abacus.Main
import Abacus.Proofs.Outcome
import Abacus.Proofs.Number.IntegerText
import Abacus.Proofs.Binary64.Rounding
import Abacus.Proofs.Binary64.Decimal
import Abacus.Proofs.Binary64.Nearest
import Abacus.Proofs.Expression.Operators
import Abacus.Proofs.Expression.Tree
import Abacus.Proofs.Expression.Lexemes
import Abacus.Proofs.Expression.InfixReading
import Abacus.Proofs.Expression.Terms
import Abacus.Proofs.Expression.PostfixLexing
import Abacus.Proofs.Expression.PostfixReading
import Abacus.Proofs.Expression.Operation
import Abacus.Proofs.Expression.Stack
import Abacus.Proofs.Expression.Calculation
import Abacus.Proofs.Expression.ExactValue
import Abacus.Proofs.Number.FloatText
import Abacus.Proofs.Number.CanonicalText
import Abacus.Proofs.Number.RoundTrip
import Abacus.Proofs.Expression.DigitLimit
import Abacus.Proofs.Expression.Run
import Abacus.Proofs.Expression.WellFormed
import Abacus.Proofs.Expression.Windows
import Abacus.Proofs.Expression.CanonicalResult
import Abacus.Proofs.Expression.ResultText
import Abacus.Proofs.Expression.Conservation
import Abacus.Proofs.Expression.Pending
import Abacus.Proofs.Expression.Pieces
import Abacus.Proofs.Text.Parentheses
import Abacus.Proofs.Expression.InfixComplaints
import Abacus.Proofs.Expression.Inventory
import Abacus.Proofs.Expression.DivisionFree
import Abacus.Proofs.Expression.Quotient
import Abacus.Proofs.Expression.PostfixForm
import Abacus.Proofs.Expression.RoundTrip
import Abacus.Proofs.Expression.BothNotations
import Abacus.Proofs.Expression.Subexpression
import Abacus.Proofs.Expression.Grammar
import Abacus.Proofs.Expression.Acceptance
import Abacus.Proofs.Expression.Juxtaposition
import Abacus.Proofs.Json.Grammar
import Abacus.Proofs.Json.RoundTrip
import Abacus.Proofs.Json.Schema
import Abacus.Proofs.Results.Conformity
import Abacus.Proofs.Results.Report
import Abacus.Proofs.Api.Request
import Abacus.Proofs.Results.Rendering
import Abacus.Proofs.Api.Agreement
import Abacus.Proofs.Results.PlainText
import Abacus.Proofs.Api.PlainText
import Abacus.Proofs.CommandLine.Arguments
import Abacus.Proofs.CommandLine.Outputs
import Abacus.Proofs.Text.Input
import Abacus.Proofs.CommandLine.Plans
import Abacus.Proofs.CommandLine.Input
import Abacus.Proofs.CommandLine.FormChoice
import Abacus.Proofs.Api.FormChoice
import Abacus.Proofs.DefaultNotation
import Abacus.Proofs.Expression.NumeralFailure
