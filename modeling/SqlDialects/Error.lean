import SqlDialects.Json.Printer
import SqlDialects.Query.Inspect
import SqlDialects.Table.Basic

/-! The causes for which something cannot be built, compiled or run, and their texts. -/

namespace SqlDialects

/-- What a dialect may have no spelling for. -/
inductive Feature where
  | selectInto
  | selectIntoDatabase
  | joinedDelete
  | deleteFromMany
  | distinctTuple
  | columnSize (size : SizeClass) (type : ColumnType) (column : String)
  | autoincrementBesideKey (column : String)
  | addAutoincrementColumn
  | makeAutoincrement
  | identityOnColumn
  | modifyToAutoincrement
  | modifyColumn
  | addPrimaryKey
  | addForeignKey
  | dropPrimaryKey
  | dropForeignKey
  | changeDefault
deriving DecidableEq, Repr

namespace Feature

def message : Feature → String
  | selectInto => "SELECT INTO"
  | selectIntoDatabase => "SELECT INTO another database"
  | joinedDelete => "DELETE with joins or multiple tables"
  | deleteFromMany => "DELETE from more than one table"
  | distinctTuple => "DISTINCT aggregate over several columns"
  | columnSize size type column =>
    "size '" ++ size.name ++ "' on " ++ type.describe ++ " column '" ++ column ++ "'"
  | autoincrementBesideKey column =>
    "autoincrement column '" ++ column ++ "' that is not the sole primary key column"
  | addAutoincrementColumn => "adding an autoincrement column to an existing table"
  | makeAutoincrement => "adding autoincrement to an existing column"
  | identityOnColumn => "adding IDENTITY to an existing column"
  | modifyToAutoincrement => "autoincrement through MODIFY COLUMN"
  | modifyColumn => "MODIFY COLUMN"
  | addPrimaryKey => "adding a primary key to an existing table"
  | addForeignKey => "adding a foreign key to an existing table"
  | dropPrimaryKey => "dropping a primary key"
  | dropForeignKey => "dropping a foreign key"
  | changeDefault => "changing a column default"

end Feature

/-- Why a configuration cannot be used. -/
inductive ConfigError where
  | unknownScheme (scheme : String)
  | noUrl
  | noDriver
  | unreadableFile (path reason : String)
deriving DecidableEq, Repr

namespace ConfigError

def message : ConfigError → String
  | unknownScheme scheme =>
    "cannot infer a dialect from database url scheme '" ++ scheme ++ "'"
  | noUrl => "no database url configured"
  | noDriver => "no SQL Server driver is available; SQL Server statements can only be compiled"
  | unreadableFile path reason => "cannot read " ++ path ++ ": " ++ reason

end ConfigError

/-- Arguments that form no valid statement, and answers that make no sense. -/
inductive InvalidArgument where
  | unknownDialect (name : String)
  | unknownSize (name : String)
  | unknownAction (name : String)
  | selectWithoutTable
  | deleteWithoutTable
  | insertWithoutTable
  | insertWithoutColumn
  | insertWithoutRow
  | raggedRow (index values columns : Nat)
  | repeatedColumn (column : String)
  | missingValue (index : Nat) (column : String)
  | updateWithoutTable
  | updateWithoutAssignment
  | functionWithoutColumn (function : ScalarFunction)
  | badComparand (comparison : Comparison) (comparand : Comparand)
  | tableWithoutColumn (table : String)
  | autoincrementOfType (column : String) (type : ColumnType)
  | foreignKeyWithoutTarget (key : String)
  | foreignKeyColumnCount (key : String) (columns refColumns : Nat)
  | foreignKeyAsKey
  | badCount (cell : Json)
  | rejectedStatement

namespace InvalidArgument

/-- The cell that should have been a count. -/
def badCountMessage : Json → String
  | .int n => "count " ++ toString n ++ " is not an integer"
  | .double x => "count " ++ (Json.double x).compact ++ " is not an integer"
  | .string s => "count '" ++ s ++ "' is not an integer"
  | cell => "count returned " ++ cell.compact ++ ", expected an integer"

def message : InvalidArgument → String
  | unknownDialect name =>
    "unknown dialect '" ++ name ++ "', expected mysql, postgres, sqlite or sqlserver"
  | unknownSize name =>
    "unknown size '" ++ name ++ "', expected tiny, small, normal, medium or big"
  | unknownAction name =>
    "unknown referential action '" ++ name ++
      "', expected RESTRICT, CASCADE, NO ACTION or SET NULL"
  | selectWithoutTable => "SELECT requires at least one table"
  | deleteWithoutTable => "DELETE requires a FROM table"
  | insertWithoutTable => "INSERT requires a target table"
  | insertWithoutColumn => "INSERT requires at least one column"
  | insertWithoutRow => "INSERT requires at least one row"
  | raggedRow index values columns =>
    "INSERT row " ++ toString index ++ " has " ++ toString values ++ " values, expected " ++
      toString columns
  | repeatedColumn column => "column " ++ column ++ " is given twice in the INSERT row"
  | missingValue index column =>
    "INSERT row " ++ toString index ++ " has no value for column " ++ column
  | updateWithoutTable => "UPDATE requires a target table"
  | updateWithoutAssignment => "UPDATE requires at least one assignment"
  | functionWithoutColumn function => function.inspect ++ " requires a column argument"
  | badComparand comparison comparand =>
    comparison.sql ++ " cannot take " ++ comparand.inspect ++ " as its right-hand side"
  | tableWithoutColumn table => "table '" ++ table ++ "' must declare at least one column"
  | autoincrementOfType column type =>
    "autoincrement requires an integer column, '" ++ column ++ "' is " ++ type.describe
  | foreignKeyWithoutTarget key => "foreign key '" ++ key ++ "' does not reference a table"
  | foreignKeyColumnCount key columns refColumns =>
    "foreign key '" ++ key ++ "' maps " ++ toString columns ++ " columns onto " ++
      toString refColumns
  | foreignKeyAsKey => "foreign keys are added with add_foreign"
  | badCount cell => badCountMessage cell
  | rejectedStatement => "statement rejected"

end InvalidArgument

inductive Error where
  | invalid (cause : InvalidArgument)
  | unsupported (dialect : Dialect) (feature : Feature)
  /-- A renaming needs the present type of the column. -/
  | missingColumnType (table column : String)
  /-- An error of the driver, in its own words. -/
  | database (message : String)
  | config (cause : ConfigError)

namespace Error

def message : Error → String
  | invalid cause => "Invalid argument: " ++ cause.message
  | unsupported dialect feature =>
    feature.message ++ " is not supported by " ++ dialect.name
  | missingColumnType table column =>
    "Cannot resolve the type of column '" ++ column ++ "' in table '" ++ table ++ "'"
  | database message => message
  | config cause => "Configuration error: " ++ cause.message

end Error

end SqlDialects
