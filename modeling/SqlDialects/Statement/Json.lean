import SqlDialects.Change.Json
import SqlDialects.Json.Printer
import SqlDialects.Statement.Basic
import SqlDialects.Table.Json

/-! Statements as JSON: an object with its `kind` beside the fields of the statement, or an array
of the kind and the fields in order. -/

namespace SqlDialects.Statement

open Json

def kind : Statement → String
  | select _ => "select"
  | insert _ => "insert"
  | update _ => "update"
  | delete _ => "delete"
  | createTable _ => "create_table"
  | alterTable _ _ => "alter_table"
  | dropTable _ => "drop_table"
  | truncateTable _ => "truncate_table"
  | renameTable _ _ => "rename_table"

def fieldsToJson : Statement → List (String × Json)
  | select query => query.fieldsToJson
  | insert statement => statement.fieldsToJson
  | update statement => statement.fieldsToJson
  | delete statement => statement.fieldsToJson
  | createTable table => table.fieldsToJson
  | alterTable table types => [("table", table.toJson), ("column_types", types.toJson)]
  | dropTable table => [("table", .string table)]
  | truncateTable table => [("table", .string table)]
  | renameTable source target => [("from", .string source), ("to", .string target)]

def toJson (statement : Statement) : Json :=
  .object (("kind", .string statement.kind) :: statement.fieldsToJson)

/-- The kind of a statement and the record of its other fields. The kind is given exactly once. -/
def splitKind? : Json → Option (String × Json)
  | .object entries =>
    match entries.filter fun entry => entry.1 == "kind" with
    | [(_, .string kind)] => some (kind, .object (entries.filter fun entry => entry.1 != "kind"))
    | _ => none
  | .array (.string kind :: rest) => some (kind, .array rest)
  | _ => none

def ofJson? (j : Json) : Option Statement := do
  let fuel := j.depth + 1
  let (kind, body) ← splitKind? j
  match kind with
  | "select" => (Query.ofJson? fuel body).map select
  | "insert" => (Insert.ofJson? fuel body).map insert
  | "update" => (Update.ofJson? fuel body).map update
  | "delete" => (Delete.ofJson? fuel body).map delete
  | "create_table" => (CreateTable.ofJson? body).map createTable
  | "alter_table" => do
    let r ← body.record? ["table", "column_types"]
    let table ← r.required "table" AlterTable.ofJson?
    let types ← r.withDefault "column_types" ColumnTypes.empty ColumnTypes.ofJson?
    return alterTable table types
  | "drop_table" => do
    let r ← body.record? ["table"]
    return dropTable (← r.required "table" string?)
  | "truncate_table" => do
    let r ← body.record? ["table"]
    return truncateTable (← r.required "table" string?)
  | "rename_table" => do
    let r ← body.record? ["from", "to"]
    return renameTable (← r.required "from" string?) (← r.required "to" string?)
  | _ => none

/-- The statement of a JSON text. -/
def ofText? (text : String) : Option Statement := do
  let j ← Json.ofText? text
  ofJson? j

/-- The JSON text of a statement. -/
def toText (statement : Statement) : String := statement.toJson.compact

end SqlDialects.Statement
