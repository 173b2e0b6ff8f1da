import SqlDialects.Query.Predicate

/-! The calls that build what is handed to the calls of a query: the condition of a join, a group of
conditions and an expression. Each call adds one item behind those of the earlier calls. -/

namespace SqlDialects

/-- A call while the condition of a join is built. -/
inductive JoinCall where
  | on (left right : String)
  | andOn (left right : String)
  | orOn (left right : String)
  | onComparison (left : String) (comparison : Comparison) (right : String)
  | orOnComparison (left : String) (comparison : Comparison) (right : String)
  | onGroup (items : JoinTree)
  | orOnGroup (items : JoinTree)

/-- A call while a group of conditions is built. -/
inductive GroupCall where
  | filter (column : String) (predicate : Predicate)
  | andFilter (column : String) (predicate : Predicate)
  | orFilter (column : String) (predicate : Predicate)
  | filterExpression (terms : Expression) (predicate : Predicate)
  | orFilterExpression (terms : Expression) (predicate : Predicate)
  | filterGroup (items : ConditionTree)
  | orFilterGroup (items : ConditionTree)
  | filterExists (query : Query)
  | orFilterExists (query : Query)
  | filterNotExists (query : Query)
  | orFilterNotExists (query : Query)
  /-- A condition on an aggregate of a column. -/
  | having (column : String) (function : Aggregate) (distinct : Bool) (predicate : Predicate)
  | orHaving (column : String) (function : Aggregate) (distinct : Bool) (predicate : Predicate)

/-- A call while an expression is built. -/
inductive ExpressionCall where
  | column (name : String)
  | value (value : Value)
  | operator (token : String)
  | group (terms : Expression)
  | subquery (query : Query)
  | count (columns : List String) (distinct : Bool)
  | sum (column : String) (distinct : Bool)
  | avg (column : String) (distinct : Bool)
  | min (column : String) (distinct : Bool)
  | max (column : String) (distinct : Bool)
  | upper (column : String)
  | lower (column : String)
  | mid (column : String) (start : Int64) (length : Option Int64)
  | length (column : String)
  | round (column : String) (decimals : UInt32)
  | format (column pattern : String)
  | now

/-- What the call adds to the condition of a join. -/
def JoinCall.item : JoinCall → Connective × JoinNode
  | on left right => (.and, .columns left .eq right)
  | andOn left right => (.and, .columns left .eq right)
  | orOn left right => (.or, .columns left .eq right)
  | onComparison left comparison right => (.and, .columns left comparison right)
  | orOnComparison left comparison right => (.or, .columns left comparison right)
  | onGroup items => (.and, .group items)
  | orOnGroup items => (.or, .group items)

/-- What the call adds to the group. Conditions on aggregates stand among the others. -/
def GroupCall.item : GroupCall → Connective × ConditionNode
  | filter column predicate => (.and, (Operand.column column).test predicate)
  | andFilter column predicate => (.and, (Operand.column column).test predicate)
  | orFilter column predicate => (.or, (Operand.column column).test predicate)
  | filterExpression terms predicate => (.and, (Operand.expression terms).test predicate)
  | orFilterExpression terms predicate => (.or, (Operand.expression terms).test predicate)
  | filterGroup items => (.and, .group items)
  | orFilterGroup items => (.or, .group items)
  | filterExists query => (.and, .exists false query)
  | orFilterExists query => (.or, .exists false query)
  | filterNotExists query => (.and, .exists true query)
  | orFilterNotExists query => (.or, .exists true query)
  | having column function distinct predicate =>
    (.and, (Operand.aggregate function column distinct).test predicate)
  | orHaving column function distinct predicate =>
    (.or, (Operand.aggregate function column distinct).test predicate)

/-- What the call adds to the expression. -/
def ExpressionCall.term : ExpressionCall → Term
  | column name => .column name
  | value v => .value v
  | operator token => .operator token
  | group terms => .group terms
  | subquery query => .subquery query
  | count columns distinct => .call (Call.count columns distinct)
  | sum name distinct => .call (Call.ofAggregate .sum name distinct)
  | avg name distinct => .call (Call.ofAggregate .avg name distinct)
  | min name distinct => .call (Call.ofAggregate .min name distinct)
  | max name distinct => .call (Call.ofAggregate .max name distinct)
  | upper name => .call (Call.ofScalar .upper name)
  | lower name => .call (Call.ofScalar .lower name)
  | mid name start size => .call (Call.ofScalar (.mid start size) name)
  | length name => .call (Call.ofScalar .length name)
  | round name decimals => .call (Call.ofScalar (.round decimals) name)
  | format name pattern => .call (Call.ofScalar (.format pattern) name)
  | now => .call Call.now

/-- The condition of a join that these calls build. -/
def JoinTree.ofCalls (calls : List JoinCall) : JoinTree :=
  calls.foldl (fun items call => items ++ [call.item]) []

/-- The group that these calls build. -/
def ConditionTree.ofCalls (calls : List GroupCall) : ConditionTree :=
  calls.foldl (fun items call => items ++ [call.item]) []

/-- The expression that these calls build. -/
def Expression.ofCalls (calls : List ExpressionCall) : Expression :=
  calls.foldl (fun terms call => terms ++ [call.term]) []

end SqlDialects
