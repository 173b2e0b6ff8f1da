import SqlDialects.Value.Basic

/-! Columns and keys of a table, and the names that keys get when none is given. -/

namespace SqlDialects

/-- The type of a column before a dialect spells it. -/
inductive ColumnType where
  | integer
  | float
  | double
  /-- A fixed-point number of `length` digits, `precision` of them after the point. -/
  | decimal
  | boolean
  | binary
  | text
  /-- A string of at most `length` characters. -/
  | string
  /-- A string of exactly `length` characters. -/
  | fixed
  | time
  | timestamp
  | date
  | dateTime
deriving DecidableEq, Repr

/-- The storage size of a column. -/
inductive SizeClass where
  | tiny
  | small
  | normal
  | medium
  | big
deriving DecidableEq, Repr

structure ColumnOptions where
  size : Option SizeClass := none
  length : Option UInt32 := none
  precision : Option UInt32 := none
  unsigned : Bool := false
  nullable : Bool := true
  default : Option Value := none
  description : Option String := none
  autoincrement : Bool := false
deriving DecidableEq, Repr

structure Column where
  name : String
  type : ColumnType
  options : ColumnOptions := {}
deriving DecidableEq, Repr

/-- What happens to a row when the row that it refers to is deleted or its key changes. -/
inductive ReferentialAction where
  | restrict
  | cascade
  | noAction
  | setNull
deriving DecidableEq, Repr

inductive KeyKind where
  | primary
  | unique
  | index
  | foreign
deriving DecidableEq, Repr

/-- A primary key, a unique key or an index. -/
structure Key where
  name : String
  columns : List String
deriving DecidableEq, Repr

structure ForeignKey where
  name : String
  columns : List String
  refTable : String := ""
  refColumns : List String := []
  onDelete : Option ReferentialAction := none
  onUpdate : Option ReferentialAction := none
deriving DecidableEq, Repr

namespace ColumnType

/-- The name in messages. -/
def describe : ColumnType → String
  | integer => "integer"
  | float => "float"
  | double => "double"
  | decimal => "decimal"
  | boolean => "boolean"
  | binary => "binary"
  | text => "text"
  | string => "string"
  | fixed => "fixed"
  | time => "time"
  | timestamp => "timestamp"
  | date => "date"
  | dateTime => "datetime"

/-- The name in descriptions of tables. -/
def name : ColumnType → String
  | integer => "Integer"
  | float => "Float"
  | double => "Double"
  | decimal => "Decimal"
  | boolean => "Boolean"
  | binary => "Binary"
  | text => "Text"
  | string => "String"
  | fixed => "Fixed"
  | time => "Time"
  | timestamp => "Timestamp"
  | date => "Date"
  | dateTime => "DateTime"

def named : List (String × ColumnType) :=
  [integer, float, double, decimal, boolean, binary, text, string, fixed, time, timestamp, date,
    dateTime].map fun t => (t.name, t)

end ColumnType

namespace SizeClass

def name : SizeClass → String
  | tiny => "tiny"
  | small => "small"
  | normal => "normal"
  | medium => "medium"
  | big => "big"

def named : List (String × SizeClass) :=
  [tiny, small, normal, medium, big].map fun s => (s.name, s)

end SizeClass

namespace ReferentialAction

def sql : ReferentialAction → String
  | restrict => "RESTRICT"
  | cascade => "CASCADE"
  | noAction => "NO ACTION"
  | setNull => "SET NULL"

def name : ReferentialAction → String
  | restrict => "Restrict"
  | cascade => "Cascade"
  | noAction => "NoAction"
  | setNull => "SetNull"

def all : List ReferentialAction := [restrict, cascade, noAction, setNull]

def named : List (String × ReferentialAction) := all.map fun a => (a.name, a)

end ReferentialAction

namespace KeyKind

/-- The mark of the kind in the names given to keys. -/
def suffix : KeyKind → String
  | primary => "pk"
  | unique => "uk"
  | index => "ik"
  | foreign => "fk"

def name : KeyKind → String
  | primary => "Primary"
  | unique => "Unique"
  | index => "Index"
  | foreign => "Foreign"

def named : List (String × KeyKind) :=
  [primary, unique, index, foreign].map fun k => (k.name, k)

end KeyKind

/-- The name of a key that was declared without one: the table, the kind and the columns, with
underscores between them. -/
def keyName (table : String) (kind : KeyKind) (columns : List String) : String :=
  table ++ "_" ++ kind.suffix ++ "_" ++ Text.join "_" columns

namespace Column

/-- The size class, `normal` when none is given. -/
def size (column : Column) : SizeClass := column.options.size.getD .normal

/-- The length, 255 when none is given. -/
def lengthOrDefault (column : Column) : UInt32 := column.options.length.getD 255

/-- The column as an auto-incrementing one, which is never null. -/
def asAutoincrement (column : Column) : Column :=
  { column with options := { column.options with autoincrement := true, nullable := false } }

end Column

end SqlDialects
