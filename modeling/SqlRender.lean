import SqlRender.Calendar.Date
import SqlRender.Calendar.DateTime
import SqlRender.CommandLine.Invocation
import SqlRender.CommandLine.Options
import SqlRender.CommandLine.Report
import SqlRender.CommandLine.Run
import SqlRender.Count
import SqlRender.Database
import SqlRender.Dialect
import SqlRender.Dialect.Registry
import SqlRender.Environment
import SqlRender.Files
import SqlRender.Guard
import SqlRender.Json.Basic
import SqlRender.Json.Fields
import SqlRender.Json.Parser
import SqlRender.Json.Printer
import SqlRender.Json.Scanner
import SqlRender.Main
import SqlRender.Mutation
import SqlRender.Number.Binary64
import SqlRender.Number.Decimal
import SqlRender.Number.Numeral
import SqlRender.Number.Power
import SqlRender.Number.Shortest
import SqlRender.Page
import SqlRender.Paginator
import SqlRender.Paging
import SqlRender.Proofs.BoundValues
import SqlRender.Proofs.HoldsByPart
import SqlRender.Proofs.Placeholders
import SqlRender.Proofs.Precedence
import SqlRender.Proofs.Request
import SqlRender.Proofs.Supplied
import SqlRender.Proofs.Tokens
import SqlRender.Query.Basic
import SqlRender.Query.Build
import SqlRender.Query.Guards
import SqlRender.Query.Json
import SqlRender.Query.Parts
import SqlRender.Query.Values
import SqlRender.Query.Words
import SqlRender.Quoting
import SqlRender.Row
import SqlRender.Select
import SqlRender.Settings
import SqlRender.Statement
import SqlRender.Text.AsciiCase
import SqlRender.Text.Blank
import SqlRender.Text.Cut
import SqlRender.Text.Hex
import SqlRender.Text.NameOrder
import SqlRender.Uuid
import SqlRender.Value.Basic
import SqlRender.Value.Compare
import SqlRender.Value.Json
import SqlRender.Value.Literal
import SqlRender.Proofs.ConditionReading
import SqlRender.Proofs.Visibility
import SqlRender.Proofs.PageRun
import SqlRender.Proofs.Compound
import SqlRender.Proofs.UnionReading
import SqlRender.Proofs.References
import SqlRender.Proofs.JoinedRows
import SqlRender.Proofs.RowCount
import SqlRender.Proofs.Arrangement
import SqlRender.Proofs.MapValues
import SqlRender.Proofs.MappedTokens
import SqlRender.Proofs.ValueIndependence
import SqlRender.Proofs.WrittenQueries
import SqlRender.Proofs.Validation
import SqlRender.Proofs.Lexemes
import SqlRender.Proofs.Names
import SqlRender.Proofs.RowClauses
import SqlRender.Proofs.PageWindows
import SqlRender.Proofs.QuotingStyles
import SqlRender.Proofs.Rescoping
import SqlRender.Proofs.CountablePages
import SqlRender.Proofs.Changes
import SqlRender.Proofs.QualifiedColumns
import SqlRender.Proofs.AddressedRows
import SqlRender.Proofs.ListedTables
import SqlRender.Proofs.Numerals
import SqlRender.Proofs.CalendarTexts
import SqlRender.Proofs.DecimalTexts
import SqlRender.Proofs.ValueDocuments
import SqlRender.Proofs.DocumentReadings
import SqlRender.Proofs.QueryDocuments
import SqlRender.Proofs.GuardedTexts
import SqlRender.Proofs.WindowTexts
import SqlRender.Proofs.WindowOrdering
import SqlRender.Proofs.OuterColumns
import SqlRender.Proofs.CountClauses
import SqlRender.Proofs.KnownTotals
import SqlRender.Proofs.PartValues
import SqlRender.Proofs.StatementValues
import SqlRender.Proofs.InertJoins
import SqlRender.Proofs.ExcludedJoins
import SqlRender.Proofs.Batches
import SqlRender.Proofs.Terms
import SqlRender.Proofs.Calculations
import SqlRender.Proofs.Writing
import SqlRender.Proofs.WrittenTokens
import SqlRender.Proofs.Placement
import SqlRender.Proofs.UnlimitedQueries
import SqlRender.Proofs.PrunedConditions
import SqlRender.Proofs.ConditionClauses
import SqlRender.Proofs.RepeatedTables
import SqlRender.Proofs.BuildSteps
import SqlRender.Proofs.Duplicates
import SqlRender.Proofs.BuiltSources
import SqlRender.Proofs.Lookups
import SqlRender.Proofs.AssignmentTexts
import SqlRender.Proofs.ResultColumns
import SqlRender.Proofs.FloatEquality
import SqlRender.Proofs.DecimalKeys
import SqlRender.Proofs.Hashing
