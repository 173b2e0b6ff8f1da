import SqlDialects.Catalog
import SqlDialects.Change.Basic
import SqlDialects.Change.Build
import SqlDialects.Change.Json
import SqlDialects.Change.Render
import SqlDialects.CommandLine.Argument
import SqlDialects.CommandLine.Invocation
import SqlDialects.CommandLine.Listing
import SqlDialects.CommandLine.Run
import SqlDialects.Config.Basic
import SqlDialects.Config.Reader
import SqlDialects.Dialect
import SqlDialects.Dialect.Selection
import SqlDialects.Error
import SqlDialects.Identifier
import SqlDialects.Json.Basic
import SqlDialects.Json.Decode
import SqlDialects.Json.Printer
import SqlDialects.Json.Reader
import SqlDialects.Json.Token
import SqlDialects.Main
import SqlDialects.Number.Double
import SqlDialects.Number.Layout
import SqlDialects.Number.Shortest
import SqlDialects.Proofs.CommandLine.DatabaseUrl
import SqlDialects.Proofs.Grouping.Clauses
import SqlDialects.Proofs.Grouping.Reading
import SqlDialects.Proofs.Grouping.Rendering
import SqlDialects.Proofs.Grouping.Skeleton
import SqlDialects.Proofs.Grouping.Traces
import SqlDialects.Proofs.Identifier.Folding
import SqlDialects.Proofs.Identifier.Path
import SqlDialects.Proofs.Json.Decoding
import SqlDialects.Proofs.Json.Reading
import SqlDialects.Proofs.Json.Scanning
import SqlDialects.Proofs.Lexing.Alike
import SqlDialects.Proofs.Lexing.Clauses
import SqlDialects.Proofs.Lexing.Lexeme
import SqlDialects.Proofs.Lexing.Literal
import SqlDialects.Proofs.Lexing.Numbering
import SqlDialects.Proofs.Lexing.Spelling
import SqlDialects.Proofs.Query.Decoding
import SqlDialects.Proofs.Query.Ends
import SqlDialects.Proofs.Query.Pagination
import SqlDialects.Proofs.Query.Recording
import SqlDialects.Proofs.Query.ResultClause
import SqlDialects.Proofs.Query.Sorting
import SqlDialects.Proofs.Result
import SqlDialects.Proofs.Rows.Changes
import SqlDialects.Proofs.Rows.Context
import SqlDialects.Proofs.Rows.Deletion
import SqlDialects.Proofs.Rows.Erasure
import SqlDialects.Proofs.Rows.InPlace
import SqlDialects.Proofs.Rows.Insertion
import SqlDialects.Proofs.Rows.Noninterference
import SqlDialects.Proofs.Rows.Parameters
import SqlDialects.Proofs.Rows.Placeholders
import SqlDialects.Proofs.Rows.Problem
import SqlDialects.Proofs.Rows.Rendering
import SqlDialects.Proofs.Rows.Threading
import SqlDialects.Proofs.Rows.Validity
import SqlDialects.Proofs.Rows.Walk
import SqlDialects.Proofs.Session.Aggregates
import SqlDialects.Proofs.Session.Entries
import SqlDialects.Proofs.Session.Prefix
import SqlDialects.Proofs.Session.ReportedTypes
import SqlDialects.Proofs.Session.Transcript
import SqlDialects.Proofs.Sql.Template
import SqlDialects.Proofs.Statement.RoundTrip
import SqlDialects.Proofs.Table.Calls
import SqlDialects.Proofs.Table.ChangeText
import SqlDialects.Proofs.Table.ColumnText
import SqlDialects.Proofs.Table.Creation
import SqlDialects.Proofs.Table.Decoding
import SqlDialects.Proofs.Table.Defaults
import SqlDialects.Proofs.Table.Descriptions
import SqlDialects.Proofs.Table.Handles
import SqlDialects.Proofs.Table.Isolation
import SqlDialects.Proofs.Table.KeyNames
import SqlDialects.Proofs.Table.KeyPlaces
import SqlDialects.Proofs.Table.Keys
import SqlDialects.Proofs.Table.Literals
import SqlDialects.Proofs.Table.Parts
import SqlDialects.Proofs.Table.Plan
import SqlDialects.Proofs.Table.Portability
import SqlDialects.Proofs.Table.PrimaryKey
import SqlDialects.Proofs.Table.ReadBack
import SqlDialects.Proofs.Table.Renaming
import SqlDialects.Proofs.Table.Sentence
import SqlDialects.Proofs.Table.SqliteChanges
import SqlDialects.Proofs.Table.TableText
import SqlDialects.Proofs.Table.Texts
import SqlDialects.Proofs.Text.Digits
import SqlDialects.Proofs.Text.Reading
import SqlDialects.Proofs.Value.Decoding
import SqlDialects.Proofs.Value.Literal
import SqlDialects.Proofs.Value.TimestampText
import SqlDialects.Query.Basic
import SqlDialects.Query.Clause
import SqlDialects.Query.Functions
import SqlDialects.Query.Inspect
import SqlDialects.Query.Json
import SqlDialects.Query.Names
import SqlDialects.Query.Nested
import SqlDialects.Query.Pagination
import SqlDialects.Query.Predicate
import SqlDialects.Query.Recording
import SqlDialects.Query.Render
import SqlDialects.Query.Sorting
import SqlDialects.Row
import SqlDialects.Session.Basic
import SqlDialects.Session.Changes
import SqlDialects.Session.Rehearsal
import SqlDialects.Session.Rows
import SqlDialects.Session.Schema
import SqlDialects.Sql
import SqlDialects.Statement.Basic
import SqlDialects.Statement.Compile
import SqlDialects.Statement.Json
import SqlDialects.Table.Alter
import SqlDialects.Table.Basic
import SqlDialects.Table.Column
import SqlDialects.Table.Create
import SqlDialects.Table.Declaration
import SqlDialects.Table.Definition
import SqlDialects.Table.Json
import SqlDialects.Table.Keyword
import SqlDialects.Table.NativeType
import SqlDialects.Table.Plan
import SqlDialects.Text.Blank
import SqlDialects.Text.Case
import SqlDialects.Text.Combining
import SqlDialects.Text.Digits
import SqlDialects.Text.Quoted
import SqlDialects.Text.Reader
import SqlDialects.Text.Separated
import SqlDialects.Text.Unprintable
import SqlDialects.Toml.Basic
import SqlDialects.Toml.Number
import SqlDialects.Toml.Reader
import SqlDialects.Toml.Text
import SqlDialects.Value.Basic
import SqlDialects.Value.Json
import SqlDialects.Value.Timestamp
