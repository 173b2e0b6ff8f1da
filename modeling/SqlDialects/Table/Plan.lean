import SqlDialects.Table.Definition
import SqlDialects.Table.NativeType

/-! From descriptions of tables to the statements that carry them out. A table that is created fans
out into statements for its indexes and comments; a change becomes one or more statements for each
of its operations. -/

namespace SqlDialects

namespace Column

/-- The mark of an auto-incrementing column. -/
def autoincrementMark (dialect : Dialect) : AutoincrementMark :=
  match dialect with
  | .mysql => .keyword "AUTO_INCREMENT"
  | .postgres => .none
  | .sqlite => .primaryKey
  | .sqlServer => .keyword "IDENTITY"

/-- Only integers can be auto-incrementing. -/
def requireInteger (column : Column) : Except Error Unit :=
  if column.type = .integer then .ok ()
  else .error (.invalid (.autoincrementOfType column.name column.type))

def definition (dialect : Dialect) (column : Column) : Except Error ColumnDefinition := do
  if column.options.autoincrement then
    column.requireInteger
  let type ← column.nativeType dialect
  return {
    name := column.name
    nativeType := type
    autoincrement := if column.options.autoincrement then autoincrementMark dialect else .none
    nullable := column.options.nullable
    default := column.options.default
    comment := if dialect = .mysql then column.options.description else none }

/-- The statement for the description of a column, in the dialects that have one. -/
def comments (dialect : Dialect) (table : String) (column : Column) : List Definition :=
  match dialect, column.options.description with
  | .postgres, some text => [.comment table column.name text]
  | .sqlServer, some text => [.comment table column.name text]
  | _, _ => []

end Column

namespace ForeignKey

/-- A foreign key refers to a table, with as many columns as it has itself. -/
def check (key : ForeignKey) : Except Error Unit :=
  if key.refTable = "" ∨ key.refColumns.isEmpty then
    .error (.invalid (.foreignKeyWithoutTarget key.name))
  else if key.refColumns.length ≠ key.columns.length then
    .error (.invalid (.foreignKeyColumnCount key.name key.columns.length key.refColumns.length))
  else
    .ok ()

end ForeignKey

namespace CreateTable

/-- Whether the column is all of the primary key. -/
def isSoleKey (table : CreateTable) (column : String) : Bool :=
  table.primaryKey.any fun key => key.columns == [column]

/-- Where the mark of an auto-incrementing column declares the primary key, such a column has to be
all of the key. -/
def checkMarks (dialect : Dialect) (table : CreateTable) : Except Error Unit :=
  if Column.autoincrementMark dialect = .primaryKey then
    match table.columns.find? fun c => c.options.autoincrement && !table.isSoleKey c.name with
    | some column => .error (.unsupported dialect (.autoincrementBesideKey column.name))
    | none => .ok ()
  else
    .ok ()

/-- Whether the definition of a column declares the primary key. -/
def keyIsInline (dialect : Dialect) (table : CreateTable) : Bool :=
  Column.autoincrementMark dialect = .primaryKey &&
    table.columns.any fun c => c.options.autoincrement && table.isSoleKey c.name

/-- The items of the table after its columns. -/
def keyItems (dialect : Dialect) (table : CreateTable) : List TableItem :=
  (if table.keyIsInline dialect then [] else table.primaryKey.toList.map .primaryKey) ++
    table.uniqueKeys.map .uniqueKey ++
    (if dialect = .mysql then table.indexes.map .index else []) ++
    table.foreignKeys.map .foreignKey

/-- The statements that create the table: the table itself, then its indexes unless they are items
of it, then its comments. -/
def plan (dialect : Dialect) (table : CreateTable) : Except Error (List Definition) := do
  if table.columns.isEmpty then
    throw (.invalid (.tableWithoutColumn table.name))
  let columns ← table.columns.mapM (Column.definition dialect)
  table.checkMarks dialect
  table.foreignKeys.forM ForeignKey.check
  let items := columns.map .column ++ table.keyItems dialect
  let engine := if dialect = .mysql then table.engine else none
  let indexes :=
    if dialect = .mysql then []
    else table.indexes.map (Definition.createIndex false table.name)
  return .createTable table.name items engine ::
    indexes ++ table.columns.flatMap (Column.comments dialect table.name)

def compile (dialect : Dialect) (table : CreateTable) : Except Error (List Compiled) := do
  return (← table.plan dialect).map (Definition.compile dialect)

end CreateTable

namespace AlterOperation

/-- The constraint that a default is. -/
def defaultConstraint (table column : String) : String := "DF_" ++ table ++ "_" ++ column

/-- The primary key of one column. -/
def soleKey (name : String) (column : Column) : Key := ⟨name, [column.name]⟩

def addAutoincrementPlan (dialect : Dialect) (table : String) (column : Column) (key : String) :
    Except Error (List Definition) := do
  let definition ← column.definition dialect
  if dialect = .sqlite then
    throw (.unsupported .sqlite .addAutoincrementColumn)
  return [.alterTable table [.addColumnWithKey definition (soleKey key column)]]

def modifyPlan (dialect : Dialect) (table : String) (column : Column) :
    Except Error (List Definition) :=
  match dialect with
  | .mysql => do
    let definition ← column.definition .mysql
    return [.alterTable table [.modifyColumn definition]]
  | .postgres => do
    if column.options.autoincrement then
      throw (.unsupported .postgres .modifyToAutoincrement)
    let type ← column.nativeType .postgres
    return [.alterTable table
      (.setType column.name type :: .setNullable column.name column.options.nullable ::
        column.options.default.toList.map (.setDefault column.name))]
  | .sqlite => .error (.unsupported .sqlite .modifyColumn)
  | .sqlServer => do
    if column.options.autoincrement then
      throw (.unsupported .sqlServer .identityOnColumn)
    let type ← column.nativeType .sqlServer
    return .alterTable table [.setTypeAndNull column.name type column.options.nullable] ::
      column.options.default.toList.map fun value =>
        .alterTable table [.addDefault (defaultConstraint table column.name) column.name value]

def renamePlan (dialect : Dialect) (table source target : String) (types : ColumnTypes) :
    Except Error (List Definition) :=
  match dialect with
  | .mysql =>
    match types.find? source with
    | some type => .ok [.alterTable table [.changeColumn source target type]]
    | none => .error (.missingColumnType table source)
  | .sqlServer => .ok [.callRenameColumn table source target]
  | _ => .ok [.alterTable table [.renameColumn source target]]

def addKeyPlan (dialect : Dialect) (table : String) (kind : KeyKind) (key : Key) :
    Except Error (List Definition) :=
  match dialect, kind with
  | _, .index => .ok [.createIndex false table key]
  | .sqlite, .unique => .ok [.createIndex true table key]
  | .sqlite, .primary => .error (.unsupported .sqlite .addPrimaryKey)
  | .sqlite, .foreign => .error (.unsupported .sqlite .addForeignKey)
  | _, .primary => .ok [.alterTable table [.addItem (.primaryKey key)]]
  | _, .unique => .ok [.alterTable table [.addItem (.uniqueKey key)]]
  | _, .foreign => .error (.invalid .foreignKeyAsKey)

def addForeignPlan (dialect : Dialect) (table : String) (key : ForeignKey) :
    Except Error (List Definition) := do
  if dialect = .sqlite then
    throw (.unsupported .sqlite .addForeignKey)
  key.check
  return [.alterTable table [.addItem (.foreignKey key)]]

def dropKeyPlan (dialect : Dialect) (table : String) (kind : KeyKind) (name : String) :
    Except Error (List Definition) :=
  match dialect, kind with
  | .mysql, .primary => .ok [.alterTable table [.dropPrimaryKey]]
  | .mysql, .foreign => .ok [.alterTable table [.dropForeignKey name]]
  | .mysql, _ => .ok [.alterTable table [.dropIndex name]]
  | .sqlite, .primary => .error (.unsupported .sqlite .dropPrimaryKey)
  | .sqlite, .foreign => .error (.unsupported .sqlite .dropForeignKey)
  | .sqlite, _ => .ok [.dropIndex name table]
  | _, .index => .ok [.dropIndex name table]
  | _, _ => .ok [.alterTable table [.dropConstraint name]]

def setDefaultPlan (dialect : Dialect) (table column : String) (value : Value) :
    Except Error (List Definition) :=
  match dialect with
  | .sqlite => .error (.unsupported .sqlite .changeDefault)
  | .sqlServer =>
    .ok [.alterTable table [.addDefault (defaultConstraint table column) column value]]
  | _ => .ok [.alterTable table [.setDefault column value]]

def dropDefaultPlan (dialect : Dialect) (table column : String) :
    Except Error (List Definition) :=
  match dialect with
  | .sqlite => .error (.unsupported .sqlite .changeDefault)
  | .sqlServer => .ok [.alterTable table [.dropConstraint (defaultConstraint table column)]]
  | _ => .ok [.alterTable table [.dropDefault column]]

def autoincrementPlan (dialect : Dialect) (table : String) (column : Column) (key : String) :
    Except Error (List Definition) := do
  column.requireInteger
  match dialect with
  | .mysql =>
    let definition ← column.definition .mysql
    return [.alterTable table [.modifyWithKey definition (soleKey key column)]]
  | .postgres =>
    return [.alterTable table [.setNullable column.name false, .addIdentity column.name,
      .addItem (.primaryKey (soleKey key column))]]
  | .sqlite => throw (.unsupported .sqlite .makeAutoincrement)
  | .sqlServer => throw (.unsupported .sqlServer .identityOnColumn)

/-- The statements of one operation. The types are those of the columns before all operations. -/
def plan (dialect : Dialect) (table : String) (types : ColumnTypes) :
    AlterOperation → Except Error (List Definition)
  | addColumn column => do
    let definition ← column.definition dialect
    return .alterTable table [.addColumn definition] :: column.comments dialect table
  | addAutoincrement column key => do
    return (← addAutoincrementPlan dialect table column key) ++ column.comments dialect table
  | modifyColumn column => do
    return (← modifyPlan dialect table column) ++ column.comments dialect table
  | renameColumn source target => renamePlan dialect table source target types
  | dropColumn name => .ok [.alterTable table [.dropColumn name]]
  | addKey kind key => addKeyPlan dialect table kind key
  | addForeign key => addForeignPlan dialect table key
  | dropKey kind name => dropKeyPlan dialect table kind name
  | setDefault column value => setDefaultPlan dialect table column value
  | dropDefault column => dropDefaultPlan dialect table column
  | autoincrement column key => autoincrementPlan dialect table column key

end AlterOperation

namespace AlterTable

/-- The statements of all operations, one operation after the other. -/
def plan (dialect : Dialect) (alter : AlterTable) (types : ColumnTypes) :
    Except Error (List Definition) := do
  return (← alter.operations.mapM (AlterOperation.plan dialect alter.name types)).flatten

def compile (dialect : Dialect) (alter : AlterTable) (types : ColumnTypes) :
    Except Error (List Compiled) := do
  return (← alter.plan dialect types).map (Definition.compile dialect)

end AlterTable

namespace Definition

/-- The statement that gives a table a new name. -/
def ofRename (dialect : Dialect) (source target : String) : Definition :=
  match dialect with
  | .mysql => .renameTable source target
  | .sqlServer => .callRenameTable source target
  | _ => .alterTable source [.renameTo target]

/-- The statement that empties a table. -/
def ofTruncate (dialect : Dialect) (table : String) : Definition :=
  match dialect with
  | .sqlite => .deleteRows table
  | _ => .truncateTable table

end Definition

end SqlDialects
