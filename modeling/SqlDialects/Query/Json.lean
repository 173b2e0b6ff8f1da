import SqlDialects.Query.Names
import SqlDialects.Value.Json

/-! Queries as JSON. Decoding follows the nesting of the JSON value: each step into a nested query
part uses up one unit of fuel, and the depth of the value is enough. -/

namespace SqlDialects

open Json

namespace ScalarFunction

def toJson : ScalarFunction → Json
  | upper => .string "Upper"
  | lower => .string "Lower"
  | mid start count =>
    variant "Mid" (.object [("start", .int start.toInt),
      ("length", orNull (fun n : Int64 => .int n.toInt) count)])
  | length => .string "Length"
  | round decimals => variant "Round" (.object [("decimals", .nat decimals.toNat)])
  | format pattern => variant "Format" (.object [("pattern", .string pattern)])
  | now => .string "Now"

def ofJson? (j : Json) : Option ScalarFunction := do
  match ← j.variant? with
  | ("Upper", payload) => if isUnit payload then some upper else none
  | ("Lower", payload) => if isUnit payload then some lower else none
  | ("Mid", some j) => do
    let r ← j.record? ["start", "length"]
    let start ← r.required "start" Value.int64?
    let count ← r.optional "length" Value.int64?
    return mid start count
  | ("Length", payload) => if isUnit payload then some length else none
  | ("Round", some j) => do
    let r ← j.record? ["decimals"]
    let decimals ← r.required "decimals" (nat? 32)
    return round (UInt32.ofNat decimals)
  | ("Format", some j) => do
    let r ← j.record? ["pattern"]
    return format (← r.required "pattern" string?)
  | ("Now", payload) => if isUnit payload then some now else none
  | _ => none

end ScalarFunction

namespace Function

def toJson : Function → Json
  | aggregate f => variant "Aggregate" (.string f.name)
  | scalar f => variant "Scalar" f.toJson

def ofJson? (j : Json) : Option Function := do
  match ← j.variant? with
  | ("Aggregate", some j) => (choice? Aggregate.named j).map aggregate
  | ("Scalar", some j) => (ScalarFunction.ofJson? j).map scalar
  | _ => none

end Function

namespace Call

def toJson (call : Call) : Json :=
  .object [("func", call.function.toJson), ("columns", list .string call.columns),
    ("distinct", .bool call.distinct)]

def ofJson? (j : Json) : Option Call := do
  let r ← j.record? ["func", "columns", "distinct"]
  let function ← r.required "func" Function.ofJson?
  let columns ← r.required "columns" (list? string?)
  let distinct ← r.withDefault "distinct" false bool?
  return ⟨function, columns, distinct⟩

end Call

namespace TableRef

def toJson (table : TableRef) : Json :=
  .object [("name", .string table.name), ("alias", orNull .string table.label)]

def ofJson? (j : Json) : Option TableRef := do
  let r ← j.record? ["name", "alias"]
  let name ← r.required "name" string?
  let label ← r.withDefault "alias" none (nullable? string?)
  return ⟨name, label⟩

end TableRef

namespace JoinNode

mutual

def toJson : JoinNode → Json
  | columns left comparison right =>
    variant "Column" (.object [("left", .string left), ("operator", .string comparison.name),
      ("right", .string right)])
  | group items => variant "Nested" (.object [("items", .array (itemsToJson items))])

def itemsToJson : List (Connective × JoinNode) → List Json
  | [] => []
  | (connective, node) :: rest =>
    .array [.string connective.name, node.toJson] :: itemsToJson rest

end

def ofJson? : Nat → Json → Option JoinNode
  | 0, _ => none
  | fuel + 1, j => do
    match ← j.variant? with
    | ("Column", some j) => do
      let r ← j.record? ["left", "operator", "right"]
      let left ← r.required "left" string?
      let comparison ← r.required "operator" (choice? Comparison.named)
      let right ← r.required "right" string?
      return columns left comparison right
    | ("Nested", some j) => do
      let r ← j.record? ["items"]
      let items ← r.required "items" (list? (pair? (choice? Connective.named) (ofJson? fuel)))
      return group items
    | _ => none

end JoinNode

namespace Join

def treeToJson (tree : JoinTree) : Json :=
  .object [("items", .array (JoinNode.itemsToJson tree))]

def treeOfJson? (fuel : Nat) (j : Json) : Option JoinTree := do
  let r ← j.record? ["items"]
  r.required "items" (list? (pair? (choice? Connective.named) (JoinNode.ofJson? fuel)))

def toJson (join : Join) : Json :=
  .object [("kind", .string join.kind.name), ("table", join.table.toJson),
    ("on", treeToJson join.on)]

def ofJson? (fuel : Nat) (j : Json) : Option Join := do
  let r ← j.record? ["kind", "table", "on"]
  let kind ← r.required "kind" (choice? JoinKind.named)
  let table ← r.required "table" TableRef.ofJson?
  let on ← r.withDefault "on" [] (treeOfJson? fuel)
  return ⟨kind, table, on⟩

end Join

namespace OrderItem

def toJson (item : OrderItem) : Json :=
  .object [("column", .string item.column), ("direction", .string item.direction.name),
    ("nulls", orNull (fun n : NullsPlacement => .string n.name) item.nulls)]

def ofJson? (j : Json) : Option OrderItem := do
  let r ← j.record? ["column", "direction", "nulls"]
  let column ← r.required "column" string?
  let direction ← r.withDefault "direction" .ascending (choice? Direction.named)
  let nulls ← r.withDefault "nulls" none (nullable? (choice? NullsPlacement.named))
  return ⟨column, direction, nulls⟩

end OrderItem

namespace IntoTarget

def toJson (target : IntoTarget) : Json :=
  .object [("table", .string target.table), ("database", orNull .string target.database)]

def ofJson? (j : Json) : Option IntoTarget := do
  let r ← j.record? ["table", "database"]
  let table ← r.required "table" string?
  let database ← r.withDefault "database" none (nullable? string?)
  return ⟨table, database⟩

end IntoTarget

mutual

def Term.toJson : Term → Json
  | .column name => variant "Column" (.string name)
  | .value v => variant "Literal" v.toJson
  | .operator token => variant "Op" (.string token)
  | .call call => variant "Function" call.toJson
  | .group terms => variant "Group" (.object [("nodes", .array (Term.listToJson terms))])
  | .subquery query => variant "Subquery" (.object query.fieldsToJson)

def Term.listToJson : List Term → List Json
  | [] => []
  | term :: rest => term.toJson :: Term.listToJson rest

def Operand.toJson : Operand → Json
  | .column name => variant "Column" (.string name)
  | .expression terms => variant "Expression" (.object [("nodes", .array (Term.listToJson terms))])

def Comparand.toJson : Comparand → Json
  | .nothing => .string "None"
  | .value v => variant "Value" v.toJson
  | .column name => variant "Column" (.string name)
  | .list values => variant "List" (Json.list Value.toJson values)
  | .range low high => variant "Range" (.array [low.toJson, high.toJson])
  | .subquery query => variant "Subquery" (.object query.fieldsToJson)

def Condition.toJson : Condition → Json
  | ⟨operand, comparison, comparand⟩ =>
    .object [("operand", operand.toJson), ("operator", .string comparison.name),
      ("value", comparand.toJson)]

def ConditionNode.toJson : ConditionNode → Json
  | .test condition => variant "Condition" condition.toJson
  | .exists negated query =>
    variant "Exists" (.object [("negated", .bool negated), ("query", .object query.fieldsToJson)])
  | .group items =>
    variant "Group" (.object [("items", .array (ConditionNode.itemsToJson items))])

def ConditionNode.itemsToJson : List (Connective × ConditionNode) → List Json
  | [] => []
  | (connective, node) :: rest =>
    .array [.string connective.name, node.toJson] :: ConditionNode.itemsToJson rest

def Projection.toJson : Projection → Json
  | ⟨terms, label⟩ =>
    .object [("expr", .object [("nodes", .array (Term.listToJson terms))]),
      ("alias", orNull .string label)]

def Projection.listToJson : List Projection → List Json
  | [] => []
  | column :: rest => column.toJson :: Projection.listToJson rest

def Query.fieldsToJson : Query → List (String × Json)
  | ⟨tables, columns, joins, wheres, groupBy, having, orderBy, limit, offset, distinct, into⟩ =>
    [("tables", Json.list TableRef.toJson tables),
      ("columns", .array (Projection.listToJson columns)),
      ("joins", Json.list Join.toJson joins),
      ("wheres", .object [("items", .array (ConditionNode.itemsToJson wheres))]),
      ("group_by", Json.list .string groupBy),
      ("having", .object [("items", .array (ConditionNode.itemsToJson having))]),
      ("order_by", Json.list OrderItem.toJson orderBy),
      ("limit", orNull (fun n : UInt64 => .nat n.toNat) limit),
      ("offset", orNull (fun n : UInt64 => .nat n.toNat) offset),
      ("distinct", .bool distinct),
      ("into", orNull IntoTarget.toJson into)]

end

def Query.toJson (query : Query) : Json := .object query.fieldsToJson

def Query.fieldNames : List String :=
  ["tables", "columns", "joins", "wheres", "group_by", "having", "order_by", "limit", "offset",
    "distinct", "into"]

def Query.uint64? (j : Json) : Option UInt64 := (j.nat? 64).map UInt64.ofNat

/-- The parts of a condition tree or an expression, which are the only field of their record. -/
def itemsOf? (name : String) (decode : Json → Option α) (j : Json) : Option (List α) := do
  let r ← j.record? [name]
  r.required name (list? decode)

mutual

def Term.ofJson? : Nat → Json → Option Term
  | 0, _ => none
  | fuel + 1, j => do
    match ← j.variant? with
    | ("Column", some j) => j.string?.map .column
    | ("Literal", some j) => (Value.ofJson? j).map .value
    | ("Op", some j) => j.string?.map .operator
    | ("Function", some j) => (Call.ofJson? j).map .call
    | ("Group", some j) => (itemsOf? "nodes" (Term.ofJson? fuel) j).map .group
    | ("Subquery", some j) => (Query.ofJson? fuel j).map .subquery
    | _ => none

def Operand.ofJson? : Nat → Json → Option Operand
  | 0, _ => none
  | fuel + 1, j => do
    match ← j.variant? with
    | ("Column", some j) => j.string?.map .column
    | ("Expression", some j) => (itemsOf? "nodes" (Term.ofJson? fuel) j).map .expression
    | _ => none

def Comparand.ofJson? : Nat → Json → Option Comparand
  | 0, _ => none
  | fuel + 1, j => do
    match ← j.variant? with
    | ("None", payload) => if isUnit payload then some .nothing else none
    | ("Value", some j) => (Value.ofJson? j).map .value
    | ("Column", some j) => j.string?.map .column
    | ("List", some j) => (j.list? Value.ofJson?).map .list
    | ("Range", some j) =>
      (j.pair? Value.ofJson? Value.ofJson?).map fun bounds => .range bounds.1 bounds.2
    | ("Subquery", some j) => (Query.ofJson? fuel j).map .subquery
    | _ => none

def Condition.ofJson? : Nat → Json → Option Condition
  | 0, _ => none
  | fuel + 1, j => do
    let r ← j.record? ["operand", "operator", "value"]
    let operand ← r.required "operand" (Operand.ofJson? fuel)
    let comparison ← r.required "operator" (choice? Comparison.named)
    let comparand ← r.required "value" (Comparand.ofJson? fuel)
    return ⟨operand, comparison, comparand⟩

def ConditionNode.ofJson? : Nat → Json → Option ConditionNode
  | 0, _ => none
  | fuel + 1, j => do
    match ← j.variant? with
    | ("Condition", some j) => (Condition.ofJson? fuel j).map .test
    | ("Exists", some j) => do
      let r ← j.record? ["negated", "query"]
      let negated ← r.required "negated" bool?
      let query ← r.required "query" (Query.ofJson? fuel)
      return .exists negated query
    | ("Group", some j) =>
      let item := pair? (choice? Connective.named) (ConditionNode.ofJson? fuel)
      (itemsOf? "items" item j).map .group
    | _ => none

def Projection.ofJson? : Nat → Json → Option Projection
  | 0, _ => none
  | fuel + 1, j => do
    let r ← j.record? ["expr", "alias"]
    let terms ← r.required "expr" (itemsOf? "nodes" (Term.ofJson? fuel))
    let label ← r.withDefault "alias" none (nullable? string?)
    return ⟨terms, label⟩

def Query.ofJson? : Nat → Json → Option Query
  | 0, _ => none
  | fuel + 1, j => do
    let conditions :=
      itemsOf? "items" (pair? (choice? Connective.named) (ConditionNode.ofJson? fuel))
    let r ← j.record? Query.fieldNames
    let tables ← r.withDefault "tables" [] (list? TableRef.ofJson?)
    let columns ← r.withDefault "columns" [] (list? (Projection.ofJson? fuel))
    let joins ← r.withDefault "joins" [] (list? (Join.ofJson? fuel))
    let wheres ← r.withDefault "wheres" [] conditions
    let groupBy ← r.withDefault "group_by" [] (list? string?)
    let having ← r.withDefault "having" [] conditions
    let orderBy ← r.withDefault "order_by" [] (list? OrderItem.ofJson?)
    let limit ← r.withDefault "limit" none (nullable? Query.uint64?)
    let offset ← r.withDefault "offset" none (nullable? Query.uint64?)
    let distinct ← r.withDefault "distinct" false bool?
    let into ← r.withDefault "into" none (nullable? IntoTarget.ofJson?)
    return ⟨tables, columns, joins, wheres, groupBy, having, orderBy, limit, offset, distinct, into⟩

end

end SqlDialects
