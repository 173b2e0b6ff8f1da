import SqlDialects.Value.Basic

/-! Queries: expressions, conditions, joins and the clauses that they make up. A query says what is
asked for and nothing of how a dialect spells it. -/

namespace SqlDialects

/-- How an item of a condition is linked to the items before it. -/
inductive Connective where
  | and
  | or
deriving DecidableEq, Repr

inductive Comparison where
  | eq
  | ne
  | lt
  | gt
  | le
  | ge
  | like
  | notLike
  | between
  | notBetween
  | isIn
  | notIn
  | isNull
  | isNotNull
deriving DecidableEq, Repr

inductive Direction where
  | ascending
  | descending
deriving DecidableEq, Repr

/-- Where a sort puts the nulls. -/
inductive NullsPlacement where
  | first
  | last
deriving DecidableEq, Repr

inductive JoinKind where
  | inner
  | left
  | right
  | full
  | cross
deriving DecidableEq, Repr

inductive Aggregate where
  | count
  | sum
  | avg
  | min
  | max
deriving DecidableEq, Repr

/-- The scalar functions; each dialect has its own spelling of them. -/
inductive ScalarFunction where
  | upper
  | lower
  /-- The part of a string from the character at `start`, counted from one. -/
  | mid (start : Int64) (length : Option Int64)
  | length
  | round (decimals : UInt32)
  /-- A text by a pattern, which is bound as a parameter. -/
  | format (pattern : String)
  | now
deriving DecidableEq, Repr

inductive Function where
  | aggregate (function : Aggregate)
  | scalar (function : ScalarFunction)
deriving DecidableEq, Repr

structure Call where
  function : Function
  columns : List String
  distinct : Bool := false
deriving DecidableEq, Repr

structure TableRef where
  name : String
  /-- The name after `AS`. -/
  label : Option String := none
deriving DecidableEq, Repr

/-- One item of the condition of a join. -/
inductive JoinNode where
  /-- A comparison of two columns. -/
  | columns (left : String) (comparison : Comparison) (right : String)
  | group (items : List (Connective × JoinNode))
deriving Repr

/-- The condition of a join. The connective of the first item is not written. -/
abbrev JoinTree := List (Connective × JoinNode)

structure Join where
  kind : JoinKind
  table : TableRef
  on : JoinTree := []
deriving Repr

structure OrderItem where
  column : String
  direction : Direction := .ascending
  nulls : Option NullsPlacement := none
deriving DecidableEq, Repr

/-- The new table that a query is stored in. -/
structure IntoTarget where
  table : String
  database : Option String := none
deriving DecidableEq, Repr

mutual

/-- One piece of an expression. An expression is a list of terms written from left to right;
nesting comes from groups and subqueries only. -/
inductive Term where
  | column (name : String)
  | value (value : Value)
  /-- An operator, written as it is. -/
  | operator (token : String)
  | call (call : Call)
  | group (terms : List Term)
  | subquery (query : Query)

/-- The left side of a condition. -/
inductive Operand where
  | column (name : String)
  | expression (terms : List Term)

/-- The right side of a condition. -/
inductive Comparand where
  | nothing
  | value (value : Value)
  | column (name : String)
  | list (values : List Value)
  | range (low high : Value)
  | subquery (query : Query)

structure Condition where
  operand : Operand
  comparison : Comparison
  comparand : Comparand

/-- One item of a condition tree. -/
inductive ConditionNode where
  | test (condition : Condition)
  | exists (negated : Bool) (query : Query)
  | group (items : List (Connective × ConditionNode))

/-- One column of the result. -/
structure Projection where
  expression : List Term
  label : Option String := none

/-- The clauses of a query. -/
structure Query where
  tables : List TableRef := []
  columns : List Projection := []
  joins : List Join := []
  wheres : List (Connective × ConditionNode) := []
  groupBy : List String := []
  having : List (Connective × ConditionNode) := []
  orderBy : List OrderItem := []
  limit : Option UInt64 := none
  offset : Option UInt64 := none
  distinct : Bool := false
  into : Option IntoTarget := none

end

abbrev Expression := List Term

/-- A list of conditions, each with the connective that links it to those before it. The connective
of the first item is not written. -/
abbrev ConditionTree := List (Connective × ConditionNode)

namespace Query

/-- The query of one table without any other clause. -/
def ofTable (table : TableRef) : Query := { tables := [table] }

end Query

namespace Connective

def sql : Connective → String
  | and => "AND"
  | or => "OR"

end Connective

namespace Comparison

def sql : Comparison → String
  | eq => "="
  | ne => "!="
  | lt => "<"
  | gt => ">"
  | le => "<="
  | ge => ">="
  | like => "LIKE"
  | notLike => "NOT LIKE"
  | between => "BETWEEN"
  | notBetween => "NOT BETWEEN"
  | isIn => "IN"
  | notIn => "NOT IN"
  | isNull => "IS NULL"
  | isNotNull => "IS NOT NULL"

end Comparison

namespace Direction

def sql : Direction → String
  | ascending => "ASC"
  | descending => "DESC"

end Direction

namespace JoinKind

def sql : JoinKind → String
  | inner => "INNER JOIN"
  | left => "LEFT JOIN"
  | right => "RIGHT JOIN"
  | full => "FULL JOIN"
  | cross => "CROSS JOIN"

end JoinKind

namespace Aggregate

def sql : Aggregate → String
  | count => "COUNT"
  | sum => "SUM"
  | avg => "AVG"
  | min => "MIN"
  | max => "MAX"

end Aggregate

end SqlDialects
