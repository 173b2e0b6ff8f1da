import SqlDialects.Query.Predicate

/-! Building a query clause by clause. A clause is added to what the query already has of its kind;
a limit, an offset or a target takes the place of an earlier one. -/

namespace SqlDialects

/-- One addition to a query. -/
inductive Clause where
  | table (table : TableRef)
  | columns (columns : List Projection)
  | join (join : Join)
  | filter (connective : Connective) (node : ConditionNode)
  | groupBy (columns : List String)
  | having (connective : Connective) (node : ConditionNode)
  | orderBy (columns : List String) (direction : Direction) (nulls : Option NullsPlacement)
  | limit (count : UInt64)
  | offset (count : UInt64)
  | distinct
  | into (target : IntoTarget)

namespace Query

/-- The query with a clause added. -/
def add (query : Query) : Clause → Query
  | .table table => { query with tables := query.tables ++ [table] }
  | .columns columns => { query with columns := query.columns ++ columns }
  | .join join => { query with joins := query.joins ++ [join] }
  | .filter connective node => { query with wheres := query.wheres ++ [(connective, node)] }
  | .groupBy columns => { query with groupBy := query.groupBy ++ columns }
  | .having connective node => { query with having := query.having ++ [(connective, node)] }
  | .orderBy columns direction nulls =>
    { query with
      orderBy := query.orderBy ++ columns.map fun column => ⟨column, direction, nulls⟩ }
  | .limit count => { query with limit := some count }
  | .offset count => { query with offset := some count }
  | .distinct => { query with distinct := true }
  | .into target => { query with into := some target }

/-- The query with all clauses added in order. -/
def addAll (query : Query) (clauses : List Clause) : Query := clauses.foldl add query

@[simp] theorem addAll_nil (query : Query) : query.addAll [] = query := rfl

@[simp] theorem addAll_cons (query : Query) (clause : Clause) (rest : List Clause) :
    query.addAll (clause :: rest) = (query.add clause).addAll rest := rfl

theorem addAll_append (query : Query) (first second : List Clause) :
    query.addAll (first ++ second) = (query.addAll first).addAll second :=
  List.foldl_append

end Query

end SqlDialects
