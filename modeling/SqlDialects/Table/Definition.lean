import SqlDialects.Identifier
import SqlDialects.Sql
import SqlDialects.Table.Basic

/-! The statements that define tables, as data and as text. What a statement declares or drops can
be read off the data; the text follows from it and the dialect alone. -/

namespace SqlDialects

/-- How a definition says that its column is auto-incrementing. -/
inductive AutoincrementMark where
  /-- The type says it, or the column is none. -/
  | none
  | keyword (word : String)
  /-- The mark declares the column as the primary key. -/
  | primaryKey
deriving DecidableEq, Repr

/-- The definition of a column inside a statement. -/
structure ColumnDefinition where
  name : String
  nativeType : String
  autoincrement : AutoincrementMark
  nullable : Bool
  default : Option Value
  /-- The comment, if the dialect has it inside the definition. -/
  comment : Option String
deriving DecidableEq, Repr

/-- One line of a table that is created. -/
inductive TableItem where
  | column (definition : ColumnDefinition)
  | primaryKey (key : Key)
  | uniqueKey (key : Key)
  | index (key : Key)
  | foreignKey (key : ForeignKey)
deriving DecidableEq, Repr

/-- One action of a statement that changes a table. -/
inductive AlterAction where
  | addColumn (definition : ColumnDefinition)
  | addColumnWithKey (definition : ColumnDefinition) (key : Key)
  | addItem (item : TableItem)
  | modifyColumn (definition : ColumnDefinition)
  /-- The column becomes a key in the same statement. -/
  | modifyWithKey (definition : ColumnDefinition) (key : Key)
  | setType (column type : String)
  | setNullable (column : String) (nullable : Bool)
  /-- The type and whether nulls are allowed, in one action. -/
  | setTypeAndNull (column type : String) (nullable : Bool)
  | setDefault (column : String) (value : Value)
  /-- A default that is a constraint with a name. -/
  | addDefault (constraint column : String) (value : Value)
  | dropDefault (column : String)
  | addIdentity (column : String)
  /-- A new name, with the type stated again. -/
  | changeColumn (source target type : String)
  | renameColumn (source target : String)
  | dropColumn (column : String)
  | dropPrimaryKey
  | dropIndex (name : String)
  | dropForeignKey (name : String)
  | dropConstraint (name : String)
  | renameTo (name : String)
deriving DecidableEq, Repr

inductive Definition where
  | createTable (name : String) (items : List TableItem) (engine : Option String)
  | createIndex (unique : Bool) (table : String) (key : Key)
  | comment (table column text : String)
  | alterTable (table : String) (actions : List AlterAction)
  | dropIndex (name table : String)
  /-- A column is renamed by a procedure. -/
  | callRenameColumn (table source target : String)
  | renameTable (source target : String)
  /-- A table is renamed by a procedure. -/
  | callRenameTable (source target : String)
  | truncateTable (name : String)
  /-- All rows are deleted one by one. -/
  | deleteRows (name : String)
  | dropTable (name : String)
deriving DecidableEq, Repr

namespace AutoincrementMark

def sql : AutoincrementMark → String
  | none => ""
  | keyword word => " " ++ word
  | primaryKey => " PRIMARY KEY AUTOINCREMENT"

end AutoincrementMark

namespace ColumnDefinition

def sql (dialect : Dialect) (definition : ColumnDefinition) : String :=
  Identifier.quote dialect definition.name ++ " " ++ definition.nativeType ++
    definition.autoincrement.sql ++
    (if definition.nullable then "" else " NOT NULL") ++
    (match definition.default with
      | none => ""
      | some value => " DEFAULT " ++ value.literal dialect) ++
    (match definition.comment with
      | none => ""
      | some text => " COMMENT " ++ quoteString text)

end ColumnDefinition

namespace ForeignKey

def sql (dialect : Dialect) (key : ForeignKey) : String :=
  "CONSTRAINT " ++ Identifier.quote dialect key.name ++ " FOREIGN KEY (" ++
    Identifier.quoteList dialect key.columns ++ ") REFERENCES " ++
    Identifier.quote dialect key.refTable ++ " (" ++
    Identifier.quoteList dialect key.refColumns ++ ")" ++
    (match key.onDelete with
      | none => ""
      | some action => " ON DELETE " ++ action.sql) ++
    (match key.onUpdate with
      | none => ""
      | some action => " ON UPDATE " ++ action.sql)

end ForeignKey

namespace Key

/-- The name and the columns of a key, with a word for its kind between them. -/
def constraintSql (dialect : Dialect) (word : String) (key : Key) : String :=
  "CONSTRAINT " ++ Identifier.quote dialect key.name ++ " " ++ word ++ " (" ++
    Identifier.quoteList dialect key.columns ++ ")"

end Key

namespace TableItem

def sql (dialect : Dialect) : TableItem → String
  | column definition => definition.sql dialect
  | primaryKey key => key.constraintSql dialect "PRIMARY KEY"
  | uniqueKey key => key.constraintSql dialect "UNIQUE"
  | index key =>
    "INDEX " ++ Identifier.quote dialect key.name ++ " (" ++
      Identifier.quoteList dialect key.columns ++ ")"
  | foreignKey key => key.sql dialect

end TableItem

namespace AlterAction

/-- The words with which a column of a table is singled out for a change. -/
def alterColumn (dialect : Dialect) (column : String) : String :=
  match dialect with
  | .mysql => "ALTER " ++ Identifier.quote .mysql column
  | _ => "ALTER COLUMN " ++ Identifier.quote dialect column

/-- The words with which a column is added. -/
def addWord : Dialect → String
  | .sqlServer => "ADD "
  | _ => "ADD COLUMN "

def sql (dialect : Dialect) : AlterAction → String
  | addColumn definition => addWord dialect ++ definition.sql dialect
  | addColumnWithKey definition key =>
    addWord dialect ++ definition.sql dialect ++
      (if dialect = .sqlServer then ", " else ", ADD ") ++ key.constraintSql dialect "PRIMARY KEY"
  | addItem item => "ADD " ++ item.sql dialect
  | modifyColumn definition => "MODIFY COLUMN " ++ definition.sql dialect
  | modifyWithKey definition key =>
    "MODIFY " ++ definition.sql dialect ++ ", ADD " ++ key.constraintSql dialect "PRIMARY KEY"
  | setType column type => alterColumn dialect column ++ " TYPE " ++ type
  | setNullable column nullable =>
    alterColumn dialect column ++ (if nullable then " DROP NOT NULL" else " SET NOT NULL")
  | setTypeAndNull column type nullable =>
    alterColumn dialect column ++ " " ++ type ++ (if nullable then " NULL" else " NOT NULL")
  | setDefault column value =>
    alterColumn dialect column ++ " SET DEFAULT " ++ value.literal dialect
  | addDefault constraint column value =>
    "ADD CONSTRAINT " ++ Identifier.quote dialect constraint ++ " DEFAULT " ++
      value.literal dialect ++ " FOR " ++ Identifier.quote dialect column
  | dropDefault column => alterColumn dialect column ++ " DROP DEFAULT"
  | addIdentity column =>
    alterColumn dialect column ++ " ADD GENERATED BY DEFAULT AS IDENTITY"
  | changeColumn source target type =>
    "CHANGE " ++ Identifier.quote dialect source ++ " " ++ Identifier.quote dialect target ++
      " " ++ type
  | renameColumn source target =>
    "RENAME COLUMN " ++ Identifier.quote dialect source ++ " TO " ++
      Identifier.quote dialect target
  | dropColumn column => "DROP COLUMN " ++ Identifier.quote dialect column
  | dropPrimaryKey => "DROP PRIMARY KEY"
  | dropIndex name => "DROP INDEX " ++ Identifier.quote dialect name
  | dropForeignKey name => "DROP FOREIGN KEY " ++ Identifier.quote dialect name
  | dropConstraint name => "DROP CONSTRAINT " ++ Identifier.quote dialect name
  | renameTo name => "RENAME TO " ++ Identifier.quote dialect name

end AlterAction

namespace Definition

/-- A literal of national characters. -/
def nationalString (s : String) : String := "N" ++ quoteString s

/-- The comment of a column as a statement of its own. -/
def commentSql (dialect : Dialect) (table column text : String) : String :=
  match dialect with
  | .sqlServer =>
    "EXEC sp_addextendedproperty @name = N'MS_Description', @value = " ++ nationalString text ++
      ", @level0type = N'SCHEMA', @level0name = N'dbo', @level1type = N'TABLE', @level1name = " ++
      nationalString table ++ ", @level2type = N'COLUMN', @level2name = " ++ nationalString column
  | _ =>
    "COMMENT ON COLUMN " ++ Identifier.quote dialect table ++ "." ++
      Identifier.quote dialect column ++ " IS " ++ quoteString text

def sql (dialect : Dialect) : Definition → String
  | createTable name items engine =>
    "CREATE TABLE " ++ Identifier.quote dialect name ++ " (\n" ++
      Text.join ",\n" (items.map fun item => "    " ++ item.sql dialect) ++ "\n)" ++
      (match engine with
        | none => ""
        | some engine => " ENGINE = " ++ engine)
  | createIndex unique table key =>
    (if unique then "CREATE UNIQUE INDEX " else "CREATE INDEX ") ++
      Identifier.quote dialect key.name ++ " ON " ++ Identifier.quote dialect table ++ " (" ++
      Identifier.quoteList dialect key.columns ++ ")"
  | comment table column text => commentSql dialect table column text
  | alterTable table actions =>
    "ALTER TABLE " ++ Identifier.quote dialect table ++ " " ++
      Text.join ", " (actions.map (AlterAction.sql dialect))
  | dropIndex name table =>
    "DROP INDEX " ++ Identifier.quote dialect name ++
      (if dialect = .sqlServer then " ON " ++ Identifier.quote dialect table else "")
  | callRenameColumn table source target =>
    "EXEC sp_rename " ++ quoteString (table ++ "." ++ source) ++ ", " ++ quoteString target ++
      ", 'COLUMN'"
  | renameTable source target =>
    "RENAME TABLE " ++ Identifier.quote dialect source ++ " TO " ++
      Identifier.quote dialect target
  | callRenameTable source target =>
    "EXEC sp_rename " ++ quoteString source ++ ", " ++ quoteString target
  | truncateTable name => "TRUNCATE TABLE " ++ Identifier.quote dialect name
  | deleteRows name => "DELETE FROM " ++ Identifier.quote dialect name
  | dropTable name => "DROP TABLE " ++ Identifier.quote dialect name

/-- The statement, which has no parameters. -/
def compile (dialect : Dialect) (definition : Definition) : Compiled :=
  Compiled.plain (definition.sql dialect)

end Definition

end SqlDialects
