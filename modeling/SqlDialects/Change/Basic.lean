import SqlDialects.Query.Basic

/-! Changes to the rows of tables: insertions, updates and deletions. -/

namespace SqlDialects

/-- What is written into a column: a bound value, or an expression that the database evaluates. -/
inductive Written where
  | value (value : Value)
  | expression (terms : Expression)

structure Insert where
  table : String
  columns : List String
  rows : List (List Written)

/-- An update takes its tables and its condition from a query. -/
structure Update where
  query : Query
  assignments : List (String × Written) := []

/-- A deletion takes its tables, joins and condition from a query. The targets name the tables that
lose rows; without any it is the first table. -/
structure Delete where
  query : Query
  targets : List String := []

end SqlDialects
