import SqlDialects.Table.Declaration

/-! Describing the changes to a table. Each step adds operations at the end of the list and leaves
those before it alone. -/

namespace SqlDialects

inductive AlterStep where
  | declare (step : TableStep)
  /-- A column gets a new definition. -/
  | modify (column : Column) (properties : ColumnSteps)
  | renameColumn (source target : String)
  | dropColumn (name : String)
  | dropKey (kind : KeyKind) (name : String)
  | setDefault (column : String) (value : Value)
  | dropDefault (column : String)
  /-- An integer column becomes the auto-incrementing primary key. -/
  | autoincrement (column : String) (properties : ColumnSteps)
deriving DecidableEq, Repr

namespace AlterOperation

/-- The column that the operation defines. -/
def column? : AlterOperation → Option Column
  | addColumn column => some column
  | addAutoincrement column _ => some column
  | modifyColumn column => some column
  | autoincrement column _ => some column
  | _ => none

/-- The operation with the column that it defines changed. -/
def mapColumn (f : Column → Column) : AlterOperation → AlterOperation
  | addColumn column => addColumn (f column)
  | addAutoincrement column key => addAutoincrement (f column) key
  | modifyColumn column => modifyColumn (f column)
  | autoincrement column key => autoincrement (f column) key
  | operation => operation

/-- The name of the primary key that an auto-incrementing column of a table becomes. -/
def primaryKeyName (table column : String) : String := keyName table .primary [column]

/-- The operation with its column auto-incrementing. The primary key is declared by the same
operation; one that declares it already stays as it is. -/
def makeAutoincrement (table : String) : AlterOperation → AlterOperation
  | addColumn column => addAutoincrement column.asAutoincrement (primaryKeyName table column.name)
  | modifyColumn column => autoincrement column.asAutoincrement (primaryKeyName table column.name)
  | operation => operation

/-- The operation that adds a key. A foreign key added in this way refers to no table yet. -/
def ofKey (kind : KeyKind) (key : Key) : AlterOperation :=
  match kind with
  | .foreign => addForeign { name := key.name, columns := key.columns }
  | kind => addKey kind key

/-- A property of the column that an operation defines. The state is that operation and those that
come after it. -/
def applyColumnStep (table column : String) (state : AlterOperation × List AlterOperation)
    (step : ColumnStep) : AlterOperation × List AlterOperation :=
  let (operation, later) := state
  match step with
  | .autoincrement => (operation.makeAutoincrement table, later)
  | .key kind => (operation, later ++ [ofKey kind (Key.declare table kind none [column])])
  | step => (operation.mapColumn fun c => c.applyStep step, later)

end AlterOperation

namespace AlterTable

def addOperations (alter : AlterTable) (operations : List AlterOperation) : AlterTable :=
  { alter with operations := alter.operations ++ operations }

/-- The changes with one more operation, which defines the column, and all that is said about the
column. -/
def addDefinition (alter : AlterTable) (operation : AlterOperation) (column : String)
    (properties : ColumnSteps) : AlterTable :=
  let (operation, later) :=
    properties.steps.foldl (AlterOperation.applyColumnStep alter.name column) (operation, [])
  let reference := properties.reference.toList.map fun reference =>
    AlterOperation.addForeign (reference.toForeignKey alter.name column)
  alter.addOperations (operation :: later ++ reference)

def declare (alter : AlterTable) : TableStep → AlterTable
  | .column column properties => alter.addDefinition (.addColumn column) column.name properties
  | .key kind name columns =>
    alter.addOperations [.ofKey kind (Key.declare alter.name kind name columns)]
  | .foreign name columns steps =>
    alter.addOperations [.addForeign (ForeignKey.declare alter.name name columns steps)]

def apply (alter : AlterTable) : AlterStep → AlterTable
  | .declare step => alter.declare step
  | .modify column properties => alter.addDefinition (.modifyColumn column) column.name properties
  | .renameColumn source target => alter.addOperations [.renameColumn source target]
  | .dropColumn name => alter.addOperations [.dropColumn name]
  | .dropKey kind name => alter.addOperations [.dropKey kind name]
  | .setDefault column value => alter.addOperations [.setDefault column value]
  | .dropDefault column => alter.addOperations [.dropDefault column]
  | .autoincrement column properties =>
    alter.addDefinition
      (.autoincrement (Column.asAutoincrement ⟨column, .integer, {}⟩)
        (AlterOperation.primaryKeyName alter.name column))
      column properties

/-- The changes of all steps in order. -/
def ofSteps (name : String) (steps : List AlterStep) : AlterTable :=
  steps.foldl apply { name := name }

end AlterTable

end SqlDialects
