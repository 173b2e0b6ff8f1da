import SqlDialects.Query.Clause

/-! The calls that build a query. Most of them are offered twice, while a query is built that will
be run and while one is built that stands inside a condition. Each of the two has calls of its own
as well. -/

namespace SqlDialects

/-- A call while a query is built that will be run. -/
inductive QueryCall where
  | fromTable (table : TableRef)
  | columns (columns : List Projection)
  | filter (column : String) (predicate : Predicate)
  | andFilter (column : String) (predicate : Predicate)
  | orFilter (column : String) (predicate : Predicate)
  | filterExpression (terms : Expression) (predicate : Predicate)
  | orFilterExpression (terms : Expression) (predicate : Predicate)
  | filterGroup (items : ConditionTree)
  | orFilterGroup (items : ConditionTree)
  | filterExists (query : Query)
  | orFilterExists (query : Query)
  | filterNotExists (query : Query)
  | orFilterNotExists (query : Query)
  | join (table : TableRef) (on : JoinTree)
  | leftJoin (table : TableRef) (on : JoinTree)
  | rightJoin (table : TableRef) (on : JoinTree)
  | fullJoin (table : TableRef) (on : JoinTree)
  | crossJoin (table : TableRef)
  | groupBy (columns : List String)
  /-- A condition on an aggregate of a column. -/
  | having (column : String) (function : Aggregate) (distinct : Bool) (predicate : Predicate)
  | orHaving (column : String) (function : Aggregate) (distinct : Bool) (predicate : Predicate)
  | havingExpression (terms : Expression) (predicate : Predicate)
  | orHavingExpression (terms : Expression) (predicate : Predicate)
  | havingGroup (items : ConditionTree)
  | orHavingGroup (items : ConditionTree)
  | orderBy (columns : List String)
  | orderByDescending (columns : List String)
  | orderByWith (columns : List String) (direction : Direction) (nulls : Option NullsPlacement)
  | limit (count : UInt64)
  | offset (count : UInt64)
  | distinct
  | selectInto (table : String) (database : Option String)

/-- A call while a query is built that stands inside a condition. -/
inductive SubqueryCall where
  | fromTable (table : TableRef)
  | fromLabelled (name label : String)
  | columns (columns : List Projection)
  | columnExpression (terms : Expression)
  | filter (column : String) (predicate : Predicate)
  | andFilter (column : String) (predicate : Predicate)
  | orFilter (column : String) (predicate : Predicate)
  | filterExpression (terms : Expression) (predicate : Predicate)
  | filterGroup (items : ConditionTree)
  | orFilterGroup (items : ConditionTree)
  | filterExists (query : Query)
  | filterNotExists (query : Query)
  | join (table : TableRef) (on : JoinTree)
  | leftJoin (table : TableRef) (on : JoinTree)
  | rightJoin (table : TableRef) (on : JoinTree)
  | crossJoin (table : TableRef)
  | groupBy (columns : List String)
  | having (column : String) (function : Aggregate) (distinct : Bool) (predicate : Predicate)
  | orHaving (column : String) (function : Aggregate) (distinct : Bool) (predicate : Predicate)
  | havingExpression (terms : Expression) (predicate : Predicate)
  | orHavingExpression (terms : Expression) (predicate : Predicate)
  | havingGroup (items : ConditionTree)
  /-- Here the order is given one column at a time. -/
  | orderBy (column : String)
  | orderByDescending (column : String)
  | limit (count : UInt64)
  | offset (count : UInt64)
  | distinct

namespace QueryCall

/-- What the call adds to the query. -/
def clause : QueryCall → Clause
  | fromTable table => .table table
  | columns projections => .columns projections
  | filter column predicate => .filter .and ((Operand.column column).test predicate)
  | andFilter column predicate => .filter .and ((Operand.column column).test predicate)
  | orFilter column predicate => .filter .or ((Operand.column column).test predicate)
  | filterExpression terms predicate => .filter .and ((Operand.expression terms).test predicate)
  | orFilterExpression terms predicate => .filter .or ((Operand.expression terms).test predicate)
  | filterGroup items => .filter .and (.group items)
  | orFilterGroup items => .filter .or (.group items)
  | filterExists query => .filter .and (.exists false query)
  | orFilterExists query => .filter .or (.exists false query)
  | filterNotExists query => .filter .and (.exists true query)
  | orFilterNotExists query => .filter .or (.exists true query)
  | join table on => .join ⟨.inner, table, on⟩
  | leftJoin table on => .join ⟨.left, table, on⟩
  | rightJoin table on => .join ⟨.right, table, on⟩
  | fullJoin table on => .join ⟨.full, table, on⟩
  | crossJoin table => .join { kind := .cross, table := table }
  | groupBy names => .groupBy names
  | having column function unique predicate =>
    .having .and ((Operand.aggregate function column unique).test predicate)
  | orHaving column function unique predicate =>
    .having .or ((Operand.aggregate function column unique).test predicate)
  | havingExpression terms predicate => .having .and ((Operand.expression terms).test predicate)
  | orHavingExpression terms predicate => .having .or ((Operand.expression terms).test predicate)
  | havingGroup items => .having .and (.group items)
  | orHavingGroup items => .having .or (.group items)
  | orderBy names => .orderBy names .ascending none
  | orderByDescending names => .orderBy names .descending none
  | orderByWith names direction nulls => .orderBy names direction nulls
  | limit count => .limit count
  | offset count => .offset count
  | distinct => .distinct
  | selectInto table database => .into ⟨table, database⟩

end QueryCall

namespace Query

def record (query : Query) (call : QueryCall) : Query := query.add call.clause

/-- The query after calls in order. -/
def recordAll (query : Query) (calls : List QueryCall) : Query := calls.foldl record query

def pushFilter (query : Query) (connective : Connective) (node : ConditionNode) : Query :=
  { query with wheres := query.wheres ++ [(connective, node)] }

def pushHaving (query : Query) (connective : Connective) (node : ConditionNode) : Query :=
  { query with having := query.having ++ [(connective, node)] }

def pushJoin (query : Query) (join : Join) : Query := { query with joins := query.joins ++ [join] }

def pushOrder (query : Query) (column : String) (direction : Direction) : Query :=
  { query with orderBy := query.orderBy ++ [⟨column, direction, none⟩] }

/-- The query with one more call, where it stands inside a condition. -/
def recordInside (query : Query) : SubqueryCall → Query
  | .fromTable table => { query with tables := query.tables ++ [table] }
  | .fromLabelled name label => { query with tables := query.tables ++ [⟨name, some label⟩] }
  | .columns columns => { query with columns := query.columns ++ columns }
  | .columnExpression terms => { query with columns := query.columns ++ [{ expression := terms }] }
  | .filter column predicate => query.pushFilter .and ((Operand.column column).test predicate)
  | .andFilter column predicate => query.pushFilter .and ((Operand.column column).test predicate)
  | .orFilter column predicate => query.pushFilter .or ((Operand.column column).test predicate)
  | .filterExpression terms predicate =>
    query.pushFilter .and ((Operand.expression terms).test predicate)
  | .filterGroup items => query.pushFilter .and (.group items)
  | .orFilterGroup items => query.pushFilter .or (.group items)
  | .filterExists inner => query.pushFilter .and (.exists false inner)
  | .filterNotExists inner => query.pushFilter .and (.exists true inner)
  | .join table on => query.pushJoin ⟨.inner, table, on⟩
  | .leftJoin table on => query.pushJoin ⟨.left, table, on⟩
  | .rightJoin table on => query.pushJoin ⟨.right, table, on⟩
  | .crossJoin table => query.pushJoin { kind := .cross, table := table }
  | .groupBy columns => { query with groupBy := query.groupBy ++ columns }
  | .having column function distinct predicate =>
    query.pushHaving .and ((Operand.aggregate function column distinct).test predicate)
  | .orHaving column function distinct predicate =>
    query.pushHaving .or ((Operand.aggregate function column distinct).test predicate)
  | .havingExpression terms predicate =>
    query.pushHaving .and ((Operand.expression terms).test predicate)
  | .orHavingExpression terms predicate =>
    query.pushHaving .or ((Operand.expression terms).test predicate)
  | .havingGroup items => query.pushHaving .and (.group items)
  | .orderBy column => query.pushOrder column .ascending
  | .orderByDescending column => query.pushOrder column .descending
  | .limit count => { query with limit := some count }
  | .offset count => { query with offset := some count }
  | .distinct => { query with distinct := true }

/-- The query of these calls, where it stands inside a condition. -/
def ofSubqueryCalls (calls : List SubqueryCall) : Query := calls.foldl recordInside {}

end Query

end SqlDialects
