import SqlDialects.Table.Basic

/-! What is said about a table piece by piece: columns and keys with the properties given to them.
Creating a table and changing one share these declarations and carry them out in their own ways. -/

namespace SqlDialects

/-- One property given to a column. -/
inductive ColumnStep where
  | notNull
  | nullable
  | default (value : Value)
  | unsigned
  | size (size : SizeClass)
  | length (length : UInt32)
  | precision (precision : UInt32)
  | description (text : String)
  /-- The column counts up by itself and is the primary key. -/
  | autoincrement
  /-- A key of this column alone. -/
  | key (kind : KeyKind)
deriving DecidableEq, Repr

/-- One property given to a foreign key. -/
inductive ForeignStep where
  | references (table : String) (columns : List String)
  | onDelete (action : ReferentialAction)
  | onUpdate (action : ReferentialAction)
deriving DecidableEq, Repr

/-- The column that another table's column refers to, with the properties of the reference. -/
structure Reference where
  table : String
  column : String
  steps : List ForeignStep := []
deriving DecidableEq, Repr

/-- The properties given to a column in order, and last the column that it refers to. -/
structure ColumnSteps where
  steps : List ColumnStep := []
  reference : Option Reference := none
deriving DecidableEq, Repr

inductive TableStep where
  | column (column : Column) (properties : ColumnSteps)
  /-- A key, which gets a name of its own if none is given. -/
  | key (kind : KeyKind) (name : Option String) (columns : List String)
  | foreign (name : Option String) (columns : List String) (steps : List ForeignStep)
deriving DecidableEq, Repr

namespace Column

/-- A string of at most `length` characters. -/
def ofString (name : String) (length : UInt32) : Column :=
  ⟨name, .string, { length := some length }⟩

/-- A string of exactly `length` characters. -/
def ofFixed (name : String) (length : UInt32) : Column :=
  ⟨name, .fixed, { length := some length }⟩

/-- A fixed-point number. -/
def ofDecimal (name : String) (length precision : UInt32) : Column :=
  ⟨name, .decimal, { length := some length, precision := some precision }⟩

end Column

namespace ColumnStep

/-- The options of a column with the property. The properties that concern keys are no options. -/
def apply (options : ColumnOptions) : ColumnStep → ColumnOptions
  | notNull => { options with nullable := false }
  | nullable => { options with nullable := true }
  | default value => { options with default := some value }
  | unsigned => { options with unsigned := true }
  | size s => { options with size := some s }
  | length n => { options with length := some n }
  | precision n => { options with precision := some n }
  | description text => { options with description := some text }
  | autoincrement => options
  | key _ => options

end ColumnStep

namespace Column

/-- The column with a property that is an option. -/
def applyStep (column : Column) (step : ColumnStep) : Column :=
  { column with options := step.apply column.options }

end Column

namespace ForeignStep

def apply (key : ForeignKey) : ForeignStep → ForeignKey
  | references table columns => { key with refTable := table, refColumns := columns }
  | onDelete action => { key with onDelete := some action }
  | onUpdate action => { key with onUpdate := some action }

end ForeignStep

namespace Key

/-- A key of a table; without a name of its own it gets one. -/
def declare (table : String) (kind : KeyKind) (name : Option String) (columns : List String) :
    Key :=
  ⟨name.getD (keyName table kind columns), columns⟩

end Key

namespace ForeignKey

/-- A foreign key of a table with its properties. -/
def declare (table : String) (name : Option String) (columns : List String)
    (steps : List ForeignStep) : ForeignKey :=
  let key := Key.declare table .foreign name columns
  steps.foldl ForeignStep.apply { name := key.name, columns := key.columns }

end ForeignKey

namespace Reference

/-- The foreign key of a column of a table. -/
def toForeignKey (reference : Reference) (table column : String) : ForeignKey :=
  ForeignKey.declare table none [column]
    (.references reference.table [reference.column] :: reference.steps)

end Reference

end SqlDialects
