import Mathlib.Data.List.Forall2
import SqlDialects.Statement.Compile
import SqlDialects.Table.Alter

/-! Statements about tables that differ in texts only: in defaults that are strings and in the
descriptions of columns. A relation says which texts may stand for which; everything else is the
same on both sides. -/

namespace SqlDialects

/-- A statement that describes a table, or changes to one. -/
inductive TableStatement where
  | create (table : CreateTable)
  | alter (table : AlterTable) (types : ColumnTypes)

namespace TableStatement

def toStatement : TableStatement → Statement
  | create table => .createTable table
  | alter table types => .alterTable table types

def compile (dialect : Dialect) (s : TableStatement) : Except Error (List Compiled) :=
  s.toStatement.compile dialect

end TableStatement

def Value.text? : Value → Option String
  | string s => some s
  | _ => none

theorem Value.text?_eq_some {value : Value} {text : String} :
    value.text? = some text ↔ value = .string text := by
  cases value <;> simp [text?]

/-- The texts that a column brings to the statements of a dialect: its default, if that is a string,
and its description, unless the dialect has no comments. -/
def Column.texts (dialect : Dialect) (column : Column) : List String :=
  column.options.default.toList.filterMap Value.text? ++
    (if dialect = .sqlite then [] else column.options.description.toList)

theorem Column.mem_texts {dialect : Dialect} {column : Column} {text : String} :
    text ∈ column.texts dialect ↔ column.options.default = some (.string text) ∨
      dialect ≠ .sqlite ∧ column.options.description = some text := by
  simp [texts, Value.text?_eq_some]

/-- The texts of the column that is defined, or the default that is set. Where a column becomes
auto-incrementing, one dialect alone defines it again. -/
def AlterOperation.texts (dialect : Dialect) : AlterOperation → List String
  | addColumn column => column.texts dialect
  | addAutoincrement column _ => column.texts dialect
  | modifyColumn column => column.texts dialect
  | autoincrement column _ => if dialect = .mysql then column.texts dialect else []
  | setDefault _ value => value.text?.toList
  | _ => []

def TableStatement.texts (dialect : Dialect) : TableStatement → List String
  | create table => table.columns.flatMap (Column.texts dialect)
  | alter table _ => table.operations.flatMap (AlterOperation.texts dialect)

section

variable (R : String → String → Prop)

/-- Related strings, or one value that is no string. -/
inductive Value.Matches : Value → Value → Prop
  | text {first second : String} (h : R first second) : Matches (.string first) (.string second)
  | same {value : Value} (h : ∀ s, value ≠ .string s) : Matches value value

inductive Column.Matches : Column → Column → Prop
  | intro (column : Column) {default : Option Value} {description : Option String}
    (hdefault : Option.Rel (Value.Matches R) column.options.default default)
    (hdescription : Option.Rel R column.options.description description) :
    Matches column { column with options := { column.options with default, description } }

inductive CreateTable.Matches : CreateTable → CreateTable → Prop
  | intro (table : CreateTable) {columns : List Column}
    (h : List.Forall₂ (Column.Matches R) table.columns columns) :
    Matches table { table with columns }

inductive AlterOperation.Matches : AlterOperation → AlterOperation → Prop
  | addColumn {first second : Column} (h : first.Matches R second) :
    Matches (.addColumn first) (.addColumn second)
  | addAutoincrement {first second : Column} (h : first.Matches R second) (key : String) :
    Matches (.addAutoincrement first key) (.addAutoincrement second key)
  | modifyColumn {first second : Column} (h : first.Matches R second) :
    Matches (.modifyColumn first) (.modifyColumn second)
  | autoincrement {first second : Column} (h : first.Matches R second) (key : String) :
    Matches (.autoincrement first key) (.autoincrement second key)
  | setDefault {first second : Value} (h : first.Matches R second) (column : String) :
    Matches (.setDefault column first) (.setDefault column second)
  | same {operation : AlterOperation} (hcolumn : operation.column? = none)
    (hdefault : ∀ column value, operation ≠ .setDefault column value) : Matches operation operation

inductive AlterTable.Matches : AlterTable → AlterTable → Prop
  | intro (table : AlterTable) {operations : List AlterOperation}
    (h : List.Forall₂ (AlterOperation.Matches R) table.operations operations) :
    Matches table { table with operations }

inductive TableStatement.Matches : TableStatement → TableStatement → Prop
  | create {first second : CreateTable} (h : first.Matches R second) :
    Matches (.create first) (.create second)
  | alter {first second : AlterTable} (h : first.Matches R second) (types : ColumnTypes) :
    Matches (.alter first types) (.alter second types)

end

end SqlDialects
