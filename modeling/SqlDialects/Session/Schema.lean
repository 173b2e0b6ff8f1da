import SqlDialects.Catalog
import SqlDialects.Session.Basic
import SqlDialects.Table.Plan

/-! Reading and changing the schema of a database. A change compiles as a whole before its first
statement is sent; a statement that is rejected ends it, and those sent before it stay. -/

namespace SqlDialects

namespace Row

/-- The text of a named cell. A null has none, and other cells that are not strings have their JSON
text. -/
def text? (row : Row) (name : String) : Option String :=
  match row.cell? name with
  | none => none
  | some .null => none
  | some (.string s) => some s
  | some cell => some cell.compact

end Row

/-- A column of a table in a database. -/
structure ColumnInfo where
  name : String
  /-- The type as the database spells it. -/
  nativeType : String
deriving DecidableEq, Repr

namespace ColumnInfo

/-- The column that a row of the catalog tells of. A row without a name tells of none. -/
def ofRow? (row : Row) : Option ColumnInfo :=
  (row.text? "name").map fun name => ⟨name, (row.text? "type").getD ""⟩

/-- The types of columns by name. -/
def types (columns : List ColumnInfo) : ColumnTypes :=
  ColumnTypes.ofList (columns.map fun column => (column.name, column.nativeType))

end ColumnInfo

namespace Catalog

/-- The name of the present database, if it has one. -/
def fetchDatabase (dialect : Dialect) : Session (Option String) := do
  let rows ← Session.fetchRows ((database dialect).compile dialect)
  return rows.head?.bind fun row => row.text? "name"

/-- The names of the tables. -/
def fetchTables (dialect : Dialect) : Session (List String) := do
  let name ← fetchDatabase dialect
  let rows ← Session.fetchRows ((tables dialect (name.getD "")).compile dialect)
  return rows.filterMap fun row => row.text? "name"

/-- The columns of a table. -/
def fetchColumns (dialect : Dialect) (table : String) : Session (List ColumnInfo) := do
  let name ← fetchDatabase dialect
  let rows ← Session.fetchRows ((columns dialect (name.getD "") table).compile dialect)
  return rows.filterMap ColumnInfo.ofRow?

end Catalog

namespace CreateTable

def execute (dialect : Dialect) (table : CreateTable) : Session Unit := do
  Session.executeAll (← Session.ofExcept (table.compile dialect))

end CreateTable

namespace AlterTable

/-- Whether the present types of columns are needed: MySQL says the type again when it renames. -/
def needsTypes (dialect : Dialect) (alter : AlterTable) : Bool :=
  dialect = .mysql && !alter.renamedColumns.isEmpty

def fetchTypes (dialect : Dialect) (alter : AlterTable) : Session ColumnTypes :=
  if alter.needsTypes dialect then do
    return ColumnInfo.types (← Catalog.fetchColumns dialect alter.name)
  else
    Session.ofExcept (.ok ColumnTypes.empty)

def execute (dialect : Dialect) (alter : AlterTable) : Session Unit := do
  let types ← alter.fetchTypes dialect
  Session.executeAll (← Session.ofExcept (alter.compile dialect types))

end AlterTable

namespace Definition

/-- Carries out a single change of the schema. -/
def execute (dialect : Dialect) (definition : Definition) : Session Unit :=
  Session.executeAll [definition.compile dialect]

end Definition

end SqlDialects
