import SqlDialects.Table.Declaration

/-! Describing a table to create. A later primary key takes the place of an earlier one; all else
is added. -/

namespace SqlDialects

inductive CreateStep where
  | declare (step : TableStep)
  /-- The storage engine. -/
  | engine (name : String)
deriving DecidableEq, Repr

namespace CreateTable

/-- The table with a key. A foreign key added in this way refers to no table yet. -/
def addKey (table : CreateTable) (kind : KeyKind) (key : Key) : CreateTable :=
  match kind with
  | .primary => { table with primaryKey := some key }
  | .unique => { table with uniqueKeys := table.uniqueKeys ++ [key] }
  | .index => { table with indexes := table.indexes ++ [key] }
  | .foreign =>
    { table with
      foreignKeys := table.foreignKeys ++ [{ name := key.name, columns := key.columns }] }

/-- The table with a key of one column, named after it. -/
def addColumnKey (table : CreateTable) (kind : KeyKind) (column : String) : CreateTable :=
  table.addKey kind (Key.declare table.name kind none [column])

def addForeignKey (table : CreateTable) (key : ForeignKey) : CreateTable :=
  { table with foreignKeys := table.foreignKeys ++ [key] }

/-- A property of a column, and the keys that it brings to the table. -/
def applyColumnStep (state : CreateTable × Column) (step : ColumnStep) : CreateTable × Column :=
  let (table, column) := state
  match step with
  | .autoincrement => (table.addColumnKey .primary column.name, column.asAutoincrement)
  | .key kind => (table.addColumnKey kind column.name, column)
  | step => (table, column.applyStep step)

/-- The table with a column and all that is said about it. -/
def addColumn (table : CreateTable) (column : Column) (properties : ColumnSteps) : CreateTable :=
  let (table, column) := properties.steps.foldl applyColumnStep (table, column)
  let table := { table with columns := table.columns ++ [column] }
  match properties.reference with
  | none => table
  | some reference => table.addForeignKey (reference.toForeignKey table.name column.name)

def declare (table : CreateTable) : TableStep → CreateTable
  | .column column properties => table.addColumn column properties
  | .key kind name columns => table.addKey kind (Key.declare table.name kind name columns)
  | .foreign name columns steps =>
    table.addForeignKey (ForeignKey.declare table.name name columns steps)

def apply (table : CreateTable) : CreateStep → CreateTable
  | .declare step => table.declare step
  | .engine name => { table with engine := some name }

/-- The table of this name with all steps carried out in order. -/
def ofSteps (name : String) (steps : List CreateStep) : CreateTable :=
  steps.foldl apply { name := name }

end CreateTable

end SqlDialects
