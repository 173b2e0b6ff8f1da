import SqlDialects.CommandLine.Invocation
import SqlDialects.Identifier
import SqlDialects.Session.Schema
import SqlDialects.Value.Json

/-! The texts for people that commands come to, and compiled statements as JSON. -/

namespace SqlDialects

namespace Listing

/-- The lines for the values of a statement, numbered from `index` on. -/
def bindings : Nat → List Value → String
  | _, [] => ""
  | index, value :: rest =>
    "  " ++ toString index ++ " = " ++ value.display ++ "\n" ++ bindings (index + 1) rest

/-- A statement after an empty line, with its values below it. -/
def statement (compiled : Compiled) : String :=
  "\n" ++ compiled.sql ++ "\n" ++
    (if compiled.params.isEmpty then "" else "Bindings:\n" ++ bindings 1 compiled.params)

/-- Compiled statements as a text for people. -/
def statements (dialect : Dialect) (compiled : List Compiled) : String :=
  "Dialect: " ++ dialect.name ++ "\n" ++ String.join (compiled.map statement)

/-- Compiled statements as JSON. -/
def statementsJson (compiled : List Compiled) : String :=
  (Json.list (fun c : Compiled =>
    .object [("sql", .string c.sql), ("params", Json.list Value.toJson c.params)])
    compiled).indented 0 ++ "\n"

/-- Four columns, of which the last has the rest of the line. -/
def row (name quoting placeholder execution : String) : String :=
  Text.padRight 12 name ++ " " ++ Text.padRight 10 quoting ++ " " ++
    Text.padRight 12 placeholder ++ " " ++ execution ++ "\n"

/-- A dialect with a sample of its quoting and its placeholders. -/
def dialectRow (dialect : Dialect) : String :=
  row dialect.name (Identifier.quote dialect "select") (dialect.placeholder 1)
    (if dialect = .sqlServer then "compile only" else "yes")

/-- The table of dialects. -/
def dialects : String :=
  row "Dialect" "Quoting" "Placeholder" "Execution" ++
    String.ofList (List.replicate 50 '─') ++ "\n" ++ String.join (Dialect.all.map dialectRow)

/-- The tables of a database, one a line. -/
def tables (names : List String) : String :=
  if names.isEmpty then "(no tables)\n"
  else String.join (names.map fun name => name ++ "\n")

/-- The columns of a table with their types. The types stand below each other; the room for the
names is counted in bytes. -/
def columns (table : String) (found : List ColumnInfo) : String :=
  if found.isEmpty then "No such table or no columns: " ++ table ++ "\n"
  else
    let width := (found.map fun column => column.name.utf8ByteSize).foldl max 0
    String.join (found.map fun column =>
      Text.padRight width column.name ++ "  " ++ column.nativeType ++ "\n")

/-- The name of a database, if it has one. -/
def database (name : Option String) : String := name.getD "(none)" ++ "\n"

end Listing

namespace Inspection

/-- What a database is asked, and the text that its answers come to. -/
def session (dialect : Dialect) : Inspection → Session String
  | tables => do return Listing.tables (← Catalog.fetchTables dialect)
  | columns table => do return Listing.columns table (← Catalog.fetchColumns dialect table)
  | database => do return Listing.database (← Catalog.fetchDatabase dialect)

end Inspection

end SqlDialects
