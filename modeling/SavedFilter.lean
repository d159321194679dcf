import SavedFilter.Balance
import SavedFilter.Command.Arguments
import SavedFilter.Command.Failure
import SavedFilter.Command.FileTree
import SavedFilter.Command.Report
import SavedFilter.Command.Run
import SavedFilter.Compile.Builder
import SavedFilter.Compile.Compiler
import SavedFilter.Compile.Program
import SavedFilter.Compile.Symbolic
import SavedFilter.Compile.Trace
import SavedFilter.Condition.Basic
import SavedFilter.Condition.Build
import SavedFilter.Condition.Match
import SavedFilter.Date.Basic
import SavedFilter.Date.Text
import SavedFilter.Field
import SavedFilter.Filter
import SavedFilter.Issue
import SavedFilter.Json.Basic
import SavedFilter.Json.Lexeme
import SavedFilter.Json.Number
import SavedFilter.Json.Printer
import SavedFilter.Json.Reader
import SavedFilter.Json.Record
import SavedFilter.Json.Source
import SavedFilter.Lookup
import SavedFilter.Main
import SavedFilter.Number.Binary64
import SavedFilter.Number.Decimal
import SavedFilter.Number.Digits
import SavedFilter.Number.Shortest
import SavedFilter.Operand
import SavedFilter.Operator
import SavedFilter.Plan
import SavedFilter.Proofs.Alternatives
import SavedFilter.Proofs.Balance
import SavedFilter.Proofs.Calendar
import SavedFilter.Proofs.Check
import SavedFilter.Proofs.Cleaned
import SavedFilter.Proofs.Compile.Conservation
import SavedFilter.Proofs.Compile.Failure
import SavedFilter.Proofs.Compile.Fold
import SavedFilter.Proofs.Compile.Heights
import SavedFilter.Proofs.Compile.NormalForm
import SavedFilter.Proofs.Compile.Postfix
import SavedFilter.Proofs.Compile.Reading
import SavedFilter.Proofs.Compile.Recording
import SavedFilter.Proofs.Compile.Regrouping
import SavedFilter.Proofs.Compile.Requests
import SavedFilter.Proofs.Compile.Upheld
import SavedFilter.Proofs.Compile.Valuation
import SavedFilter.Proofs.Condition.Chains
import SavedFilter.Proofs.Condition.Compiled
import SavedFilter.Proofs.Condition.Dates
import SavedFilter.Proofs.Condition.Described
import SavedFilter.Proofs.Condition.Display
import SavedFilter.Proofs.Condition.Fields
import SavedFilter.Proofs.Condition.Membership
import SavedFilter.Proofs.Condition.Orderings
import SavedFilter.Proofs.Condition.Patterns
import SavedFilter.Proofs.Condition.Reach
import SavedFilter.Proofs.Condition.Spelled
import SavedFilter.Proofs.Condition.Truth
import SavedFilter.Proofs.Condition.Typed
import SavedFilter.Proofs.Date
import SavedFilter.Proofs.Descent
import SavedFilter.Proofs.Field
import SavedFilter.Proofs.FirstSeen
import SavedFilter.Proofs.Joins
import SavedFilter.Proofs.Json.Reader
import SavedFilter.Proofs.Json.Reading
import SavedFilter.Proofs.Json.Text
import SavedFilter.Proofs.ModelName
import SavedFilter.Proofs.Number.Decimal
import SavedFilter.Proofs.Number.Numeral
import SavedFilter.Proofs.Number.Order
import SavedFilter.Proofs.Numbering
import SavedFilter.Proofs.Operand
import SavedFilter.Proofs.Order
import SavedFilter.Proofs.Plan
import SavedFilter.Proofs.Registry
import SavedFilter.Proofs.Schema
import SavedFilter.Proofs.Sql.ConditionReading
import SavedFilter.Proofs.Sql.Lexer
import SavedFilter.Proofs.Sql.Like
import SavedFilter.Proofs.Sql.Parameters
import SavedFilter.Proofs.Sql.QueryReading
import SavedFilter.Proofs.Sql.Reader
import SavedFilter.Proofs.Sql.Spacing
import SavedFilter.Proofs.Stored
import SavedFilter.Proofs.Text.Blank
import SavedFilter.Proofs.Text.Capitals
import SavedFilter.Proofs.Text.Case
import SavedFilter.Proofs.Text.Doubled
import SavedFilter.Proofs.Text.Parts
import SavedFilter.Proofs.Value
import SavedFilter.Proofs.WrittenDate
import SavedFilter.Registry
import SavedFilter.Schema
import SavedFilter.Sql.Clause
import SavedFilter.Sql.Dialect
import SavedFilter.Sql.Fragment
import SavedFilter.Sql.Query
import SavedFilter.Stored.Filter
import SavedFilter.Stored.Operand
import SavedFilter.Stored.Registry
import SavedFilter.Stored.Schema
import SavedFilter.Term
import SavedFilter.Text.Blank
import SavedFilter.Text.Case
import SavedFilter.Text.CaseContext
import SavedFilter.Text.CaseTable
import SavedFilter.Text.CodePoints
import SavedFilter.Text.Quoted
import SavedFilter.Text.Shown
import SavedFilter.Text.Split
import SavedFilter.Token
import SavedFilter.Value
