import SqlDialects.Error

/-! The native type of a column in each dialect, with its size class and sign. -/

namespace SqlDialects

namespace Column

def unsupportedSize (dialect : Dialect) (column : Column) : Error :=
  .unsupported dialect (.columnSize column.size column.type column.name)

/-- A type that has one size only. -/
def oneSize (dialect : Dialect) (column : Column) (type : String) : Except Error String :=
  if column.size = .normal then .ok type else .error (unsupportedSize dialect column)

def decimalType (column : Column) : String :=
  match column.options.length, column.options.precision with
  | some n, some places =>
    "DECIMAL(" ++ toString n.toNat ++ "," ++ toString places.toNat ++ ")"
  | some n, none => "DECIMAL(" ++ toString n.toNat ++ ")"
  | none, _ => "DECIMAL"

/-- A type with the length of the column. -/
def withLength (column : Column) (type : String) : String :=
  type ++ "(" ++ toString column.lengthOrDefault.toNat ++ ")"

def mysqlType (column : Column) : Except Error String :=
  match column.type with
  | .integer =>
    match column.size with
    | .tiny => .ok "TINYINT"
    | .small => .ok "SMALLINT"
    | .medium => .ok "MEDIUMINT"
    | .normal => .ok "INT"
    | .big => .ok "BIGINT"
  | .float =>
    match column.size with
    | .small => .ok "FLOAT"
    | .normal | .big => .ok "DOUBLE"
    | _ => .error (unsupportedSize .mysql column)
  | .double => oneSize .mysql column "DOUBLE"
  | .decimal => oneSize .mysql column (decimalType column)
  | .boolean => oneSize .mysql column "TINYINT(1)"
  | .text =>
    match column.size with
    | .tiny | .small => .ok "TINYTEXT"
    | .normal => .ok "TEXT"
    | .medium => .ok "MEDIUMTEXT"
    | .big => .ok "LONGTEXT"
  | .binary =>
    match column.size with
    | .tiny | .small => .ok "TINYBLOB"
    | .normal => .ok "BLOB"
    | .medium => .ok "MEDIUMBLOB"
    | .big => .ok "LONGBLOB"
  | .string => oneSize .mysql column (withLength column "VARCHAR")
  | .fixed => oneSize .mysql column (withLength column "CHAR")
  | .time => .ok "TIME"
  | .timestamp => .ok "TIMESTAMP"
  | .date => .ok "DATE"
  | .dateTime => .ok "DATETIME"

/-- The mark of an unsigned number. -/
def mysqlSign (column : Column) : String :=
  match column.options.unsigned, column.type with
  | true, .integer | true, .float | true, .double | true, .decimal => " UNSIGNED"
  | _, _ => ""

/-- An auto-incrementing column has a serial type. -/
def postgresType (column : Column) : Except Error String :=
  match column.type with
  | .integer =>
    match column.size, column.options.autoincrement with
    | .tiny, true | .small, true => .ok "SMALLSERIAL"
    | .medium, true | .normal, true => .ok "SERIAL"
    | .big, true => .ok "BIGSERIAL"
    | .tiny, false | .small, false => .ok "SMALLINT"
    | .medium, false | .normal, false => .ok "INTEGER"
    | .big, false => .ok "BIGINT"
  | .float =>
    match column.size with
    | .small => .ok "REAL"
    | .normal | .big => .ok "DOUBLE PRECISION"
    | _ => .error (unsupportedSize .postgres column)
  | .double => oneSize .postgres column "DOUBLE PRECISION"
  | .decimal => oneSize .postgres column (decimalType column)
  | .boolean => oneSize .postgres column "BOOLEAN"
  | .text => .ok "TEXT"
  | .binary => .ok "BYTEA"
  | .string => oneSize .postgres column (withLength column "VARCHAR")
  | .fixed => oneSize .postgres column (withLength column "CHAR")
  | .time => .ok "TIME"
  | .timestamp | .dateTime => .ok "TIMESTAMP"
  | .date => .ok "DATE"

/-- An auto-incrementing column is a plain integer of any size. -/
def sqliteType (column : Column) : Except Error String :=
  match column.type with
  | .integer =>
    match column.options.autoincrement, column.size with
    | true, _ => .ok "INTEGER"
    | false, .tiny => .ok "TINYINT"
    | false, .small => .ok "SMALLINT"
    | false, .medium => .ok "MEDIUMINT"
    | false, .normal => .ok "INTEGER"
    | false, .big => .ok "BIGINT"
  | .float =>
    match column.size with
    | .small | .normal | .big => .ok "REAL"
    | _ => .error (unsupportedSize .sqlite column)
  | .double => oneSize .sqlite column "DOUBLE"
  | .decimal => oneSize .sqlite column (decimalType column)
  | .boolean => oneSize .sqlite column "BOOLEAN"
  | .text => .ok "TEXT"
  | .binary => .ok "BLOB"
  | .string => oneSize .sqlite column (withLength column "VARCHAR")
  | .fixed => oneSize .sqlite column (withLength column "CHAR")
  | .time => .ok "TIME"
  | .timestamp | .dateTime => .ok "DATETIME"
  | .date => .ok "DATE"

def sqlServerType (column : Column) : Except Error String :=
  match column.type with
  | .integer =>
    match column.size with
    | .tiny => .ok "TINYINT"
    | .small => .ok "SMALLINT"
    | .medium | .normal => .ok "INTEGER"
    | .big => .ok "BIGINT"
  | .float =>
    match column.size with
    | .small => .ok "REAL"
    | .normal | .big => .ok "FLOAT"
    | _ => .error (unsupportedSize .sqlServer column)
  | .double => oneSize .sqlServer column "FLOAT"
  | .decimal => oneSize .sqlServer column (decimalType column)
  | .boolean => oneSize .sqlServer column "BIT"
  | .text =>
    match column.size with
    | .tiny | .small => .ok "NVARCHAR(255)"
    | .normal | .medium | .big => .ok "NVARCHAR(MAX)"
  | .binary =>
    match column.size with
    | .tiny | .small => .ok "VARBINARY(255)"
    | .normal | .medium | .big => .ok "VARBINARY(MAX)"
  | .string => oneSize .sqlServer column (withLength column "NVARCHAR")
  | .fixed => oneSize .sqlServer column (withLength column "NCHAR")
  | .time => .ok "TIME"
  | .timestamp | .dateTime => .ok "DATETIME"
  | .date => .ok "DATE"

/-- The native type, or the size class that the dialect does not have for it. -/
def nativeType (dialect : Dialect) (column : Column) : Except Error String :=
  match dialect with
  | .mysql => (mysqlType column).map (· ++ mysqlSign column)
  | .postgres => postgresType column
  | .sqlite => sqliteType column
  | .sqlServer => sqlServerType column

end Column

end SqlDialects
