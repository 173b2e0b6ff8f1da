import SqlDialects.Identifier
import SqlDialects.Query.Basic

/-! Sorting. A placement of nulls is written as such where the dialect has words for it, and as a
sort key of its own in front of the column where it has none. -/

namespace SqlDialects

/-- One key of a sort, over a column as it is written. -/
inductive SortKey where
  /-- The column, with the placement of nulls in words. -/
  | column (name : String) (direction : Direction) (nulls : Option NullsPlacement)
  /-- One for a null and zero for anything else. -/
  | isNull (name : String) (direction : Direction)
  /-- A rank for nulls and another one for anything else, in ascending order. -/
  | rank (name : String) (ofNull ofOther : Nat)
deriving DecidableEq, Repr

namespace NullsPlacement

def sql : NullsPlacement → String
  | first => " NULLS FIRST"
  | last => " NULLS LAST"

end NullsPlacement

namespace SortKey

def sql : SortKey → String
  | column name direction nulls =>
    name ++ " " ++ direction.sql ++ (match nulls with
      | none => ""
      | some placement => placement.sql)
  | isNull name direction => name ++ " IS NULL " ++ direction.sql
  | rank name ofNull ofOther =>
    "CASE WHEN " ++ name ++ " IS NULL THEN " ++ toString ofNull ++ " ELSE " ++ toString ofOther ++
      " END"

end SortKey

namespace OrderItem

/-- The keys that stand for an item. -/
def keys (dialect : Dialect) (item : OrderItem) : List SortKey :=
  let name := Identifier.quote dialect item.column
  match dialect, item.nulls with
  | .mysql, some .first => [.isNull name .descending, .column name item.direction none]
  | .mysql, some .last => [.isNull name .ascending, .column name item.direction none]
  | .sqlServer, some .first => [.rank name 0 1, .column name item.direction none]
  | .sqlServer, some .last => [.rank name 1 0, .column name item.direction none]
  | _, nulls => [.column name item.direction nulls]

end OrderItem

namespace Sorting

def keys (dialect : Dialect) (items : List OrderItem) : List SortKey :=
  items.flatMap (OrderItem.keys dialect)

/-- The clause with its leading blank, or nothing if there is nothing to sort by. -/
def text (dialect : Dialect) (items : List OrderItem) : String :=
  match items with
  | [] => ""
  | items => " ORDER BY " ++ Text.join ", " ((keys dialect items).map SortKey.sql)

end Sorting

end SqlDialects
