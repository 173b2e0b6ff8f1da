import SqlDialects.Json.Basic

/-! Rows of results: a list of column names beside a list of cells. A row has an entry for each
position at which it has both. -/

namespace SqlDialects

structure Row where
  columns : List String
  cells : List Json

namespace Row

/-- The cell at the first position of a column name. -/
def cell? (row : Row) (name : String) : Option Json := do
  row.cells[← row.columns.findIdx? (· == name)]?

/-- The cell at a position. -/
def cellAt? (row : Row) (index : Nat) : Option Json := row.cells[index]?

/-- The first cell, whatever its name. -/
def first? (row : Row) : Option Json := row.cells.head?

/-- The named cells in order. -/
def entries (row : Row) : List (String × Json) := row.columns.zip row.cells

/-- The row as an object, in which a name may occur more than once. -/
def toJson (row : Row) : Json := .object row.entries

end Row

end SqlDialects
