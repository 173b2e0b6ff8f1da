import SqlDialects.Change.Basic
import SqlDialects.Error
import SqlDialects.Query.Clause

/-! Building changes of rows step by step. -/

namespace SqlDialects

namespace Update

/-- The update of one table, without assignments so far. -/
def ofTable (table : TableRef) : Update := { query := Query.ofTable table }

/-- The update with a condition added. -/
def filter (update : Update) (connective : Connective) (node : ConditionNode) : Update :=
  { update with query := update.query.add (.filter connective node) }

def assign (update : Update) (column : String) (written : Written) : Update :=
  { update with assignments := update.assignments ++ [(column, written)] }

def assignAll (update : Update) (assignments : List (String × Written)) : Update :=
  { update with assignments := update.assignments ++ assignments }

/-- The column, an operator and a value. -/
def steppedBy (column operator : String) (step : Value) : Written :=
  .expression [.column column, .operator operator, .value step]

/-- The column grows by a value. -/
def increment (update : Update) (column : String) (step : Value) : Update :=
  update.assign column (steppedBy column "+" step)

/-- The column shrinks by a value. -/
def decrement (update : Update) (column : String) (step : Value) : Update :=
  update.assign column (steppedBy column "-" step)

end Update

/-- Named values to insert as one row. -/
abbrev NamedRow := List (String × Written)

/-- Rows that wait for their insertion, at least one. Each names its own columns. -/
structure PendingRows where
  earlier : List NamedRow := []
  latest : NamedRow

namespace PendingRows

def toList (pending : PendingRows) : List NamedRow := pending.earlier ++ [pending.latest]

def first (pending : PendingRows) : NamedRow := pending.earlier.headD pending.latest

/-- One more value for the latest row. -/
def addValue (pending : PendingRows) (column : String) (written : Written) : PendingRows :=
  { pending with latest := pending.latest ++ [(column, written)] }

def addRow (pending : PendingRows) (row : NamedRow) : PendingRows := ⟨pending.toList, row⟩

/-- The first name that occurred before it. -/
def findRepeated (seen : List String) : List String → Option String
  | [] => none
  | name :: rest => if seen.contains name then some name else findRepeated (seen ++ [name]) rest

/-- The value for a column of the row at `index`. -/
def valueFor (index : Nat) (row : NamedRow) (column : String) : Except Error Written :=
  match row.find? fun entry => entry.1 == column with
  | some entry => .ok entry.2
  | none => .error (.invalid (.missingValue index column))

/-- The values of a row in the order of the columns. -/
def orderRow (columns : List String) (index : Nat) (row : NamedRow) :
    Except Error (List Written) := do
  if row.length ≠ columns.length then
    throw (.invalid (.raggedRow index row.length columns.length))
  columns.mapM (valueFor index row)

/-- The rows, counted from `index`, with their values in the order of the columns. -/
def orderRows (columns : List String) : Nat → List NamedRow → Except Error (List (List Written))
  | _, [] => .ok []
  | index, row :: rest => do
    let values ← orderRow columns index row
    return values :: (← orderRows columns (index + 1) rest)

/-- The insertion of the rows. The first row fixes the columns and their order; the others name the
same columns in any order. -/
def toInsert (pending : PendingRows) (table : String) : Except Error Insert := do
  let columns := pending.first.map Prod.fst
  if columns.isEmpty then
    throw (.invalid .insertWithoutColumn)
  match findRepeated [] columns with
  | some column => throw (.invalid (.repeatedColumn column))
  | none =>
    return ⟨table, columns, ← orderRows columns 0 pending.toList⟩

end PendingRows

end SqlDialects
