import SqlDialects.Change.Basic
import SqlDialects.Table.Basic

/-! Statements: everything that can be compiled. -/

namespace SqlDialects

inductive Statement where
  | select (query : Query)
  | insert (insert : Insert)
  | update (update : Update)
  | delete (delete : Delete)
  | createTable (table : CreateTable)
  /-- The column types are those of the table before the changes, as far as they are known. -/
  | alterTable (table : AlterTable) (columnTypes : ColumnTypes)
  | dropTable (table : String)
  | truncateTable (table : String)
  | renameTable (source target : String)

end SqlDialects
