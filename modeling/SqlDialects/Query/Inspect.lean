import SqlDialects.Query.Names

/-! The forms of functions and of the right sides of conditions inside messages. Records show all
their fields by name and in order. -/

namespace SqlDialects

namespace Inspect

/-- A record with its fields. -/
def record (name : String) (fields : List (String × String)) : String :=
  name ++ " \x7b " ++ Text.join ", " (fields.map fun f => f.1 ++ ": " ++ f.2) ++ " \x7d"

/-- A variant with its contents. -/
def variant (name : String) (contents : List String) : String :=
  name ++ "(" ++ Text.join ", " contents ++ ")"

def list (elements : List String) : String := "[" ++ Text.join ", " elements ++ "]"

def optional (inspect : α → String) : Option α → String
  | none => "None"
  | some a => variant "Some" [inspect a]

def bool (b : Bool) : String := if b then "true" else "false"

def strings (names : List String) : String := list (names.map Text.quoted)

end Inspect

open Inspect

def ScalarFunction.inspect : ScalarFunction → String
  | .upper => "Upper"
  | .lower => "Lower"
  | .mid start count =>
    record "Mid" [("start", toString start.toInt),
      ("length", optional (fun n : Int64 => toString n.toInt) count)]
  | .length => "Length"
  | .round decimals => record "Round" [("decimals", toString decimals.toNat)]
  | .format pattern => record "Format" [("pattern", Text.quoted pattern)]
  | .now => "Now"

def Function.inspect : Function → String
  | .aggregate f => variant "Aggregate" [f.name]
  | .scalar f => variant "Scalar" [f.inspect]

def Call.inspect (call : Call) : String :=
  record "FunctionCall" [("func", call.function.inspect), ("columns", strings call.columns),
    ("distinct", bool call.distinct)]

def TableRef.inspect (table : TableRef) : String :=
  record "TableRef" [("name", Text.quoted table.name), ("alias", optional Text.quoted table.label)]

mutual

def JoinNode.inspect : JoinNode → String
  | .columns left comparison right =>
    record "Column" [("left", Text.quoted left), ("operator", comparison.name),
      ("right", Text.quoted right)]
  | .group items =>
    variant "Nested" [record "JoinSpec" [("items", list (JoinNode.inspectItems items))]]

def JoinNode.inspectItems : List (Connective × JoinNode) → List String
  | [] => []
  | (connective, node) :: rest =>
    variant "" [connective.name, node.inspect] :: JoinNode.inspectItems rest

end

def Join.inspect (join : Join) : String :=
  record "Join" [("kind", join.kind.name), ("table", join.table.inspect),
    ("on", record "JoinSpec" [("items", list (JoinNode.inspectItems join.on))])]

def OrderItem.inspect (item : OrderItem) : String :=
  record "OrderBy" [("column", Text.quoted item.column), ("direction", item.direction.name),
    ("nulls", optional NullsPlacement.name item.nulls)]

def IntoTarget.inspect (target : IntoTarget) : String :=
  record "IntoTarget" [("table", Text.quoted target.table),
    ("database", optional Text.quoted target.database)]

mutual

def Term.inspect : Term → String
  | .column name => variant "Column" [Text.quoted name]
  | .value v => variant "Literal" [v.inspect]
  | .operator token => variant "Op" [Text.quoted token]
  | .call call => variant "Function" [call.inspect]
  | .group terms => variant "Group" [record "Expression" [("nodes", list (Term.inspectAll terms))]]
  | .subquery query => variant "Subquery" [query.inspect]

def Term.inspectAll : List Term → List String
  | [] => []
  | term :: rest => term.inspect :: Term.inspectAll rest

def Operand.inspect : Operand → String
  | .column name => variant "Column" [Text.quoted name]
  | .expression terms =>
    variant "Expression" [record "Expression" [("nodes", list (Term.inspectAll terms))]]

def Comparand.inspect : Comparand → String
  | .nothing => "None"
  | .value v => variant "Value" [v.inspect]
  | .column name => variant "Column" [Text.quoted name]
  | .list values => variant "List" [list (values.map Value.inspect)]
  | .range low high => variant "Range" [low.inspect, high.inspect]
  | .subquery query => variant "Subquery" [query.inspect]

def Condition.inspect : Condition → String
  | ⟨operand, comparison, comparand⟩ =>
    record "Condition" [("operand", operand.inspect), ("operator", comparison.name),
      ("value", comparand.inspect)]

def ConditionNode.inspect : ConditionNode → String
  | .test condition => variant "Condition" [condition.inspect]
  | .exists negated query =>
    record "Exists" [("negated", bool negated), ("query", query.inspect)]
  | .group items =>
    variant "Group" [record "ConditionTree" [("items", list (ConditionNode.inspectItems items))]]

def ConditionNode.inspectItems : List (Connective × ConditionNode) → List String
  | [] => []
  | (connective, node) :: rest =>
    variant "" [connective.name, node.inspect] :: ConditionNode.inspectItems rest

def Projection.inspect : Projection → String
  | ⟨terms, label⟩ =>
    record "SelectColumn" [("expr", record "Expression" [("nodes", list (Term.inspectAll terms))]),
      ("alias", optional Text.quoted label)]

def Projection.inspectAll : List Projection → List String
  | [] => []
  | column :: rest => column.inspect :: Projection.inspectAll rest

def Query.inspect : Query → String
  | ⟨tables, columns, joins, wheres, groupBy, having, orderBy, limit, offset, distinct, into⟩ =>
    record "SqlStatement" [
      ("tables", list (tables.map TableRef.inspect)),
      ("columns", list (Projection.inspectAll columns)),
      ("joins", list (joins.map Join.inspect)),
      ("wheres",
        record "ConditionTree" [("items", list (ConditionNode.inspectItems wheres))]),
      ("group_by", strings groupBy),
      ("having",
        record "ConditionTree" [("items", list (ConditionNode.inspectItems having))]),
      ("order_by", list (orderBy.map OrderItem.inspect)),
      ("limit", optional (fun n : UInt64 => toString n.toNat) limit),
      ("offset", optional (fun n : UInt64 => toString n.toNat) offset),
      ("distinct", bool distinct),
      ("into", optional IntoTarget.inspect into)]

end

end SqlDialects
