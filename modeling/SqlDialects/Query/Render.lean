import SqlDialects.Query.Functions
import SqlDialects.Query.Pagination
import SqlDialects.Query.Sorting

/-! Queries as SQL. Every value becomes a fragment of its own at the place where it is met, from
left to right. -/

namespace SqlDialects

namespace TableRef

def render (dialect : Dialect) (table : TableRef) : String :=
  match table.label with
  | none => Identifier.quote dialect table.name
  | some label => Identifier.quote dialect table.name ++ " AS " ++ Identifier.quote dialect label

def renderList (dialect : Dialect) (tables : List TableRef) : String :=
  Text.join ", " (tables.map (render dialect))

end TableRef

namespace JoinNode

mutual

def render (dialect : Dialect) : JoinNode → String
  | columns left comparison right =>
    Identifier.quote dialect left ++ " " ++ comparison.sql ++ " " ++
      Identifier.quote dialect right
  | group items => "(" ++ renderItems dialect true items ++ ")"

/-- The items of a condition; `first` says that none stands before them. -/
def renderItems (dialect : Dialect) (first : Bool) : List (Connective × JoinNode) → String
  | [] => ""
  | (connective, node) :: rest =>
    (if first then "" else " " ++ connective.sql ++ " ") ++ node.render dialect ++
      renderItems dialect false rest

end

end JoinNode

namespace Join

/-- The condition clause of a join. A cross join has none. -/
def conditionText (dialect : Dialect) (join : Join) : String :=
  if join.kind = .cross ∨ join.on.isEmpty then ""
  else " ON " ++ JoinNode.renderItems dialect true join.on

def render (dialect : Dialect) (join : Join) : String :=
  " " ++ join.kind.sql ++ " " ++ join.table.render dialect ++ join.conditionText dialect

def renderList (dialect : Dialect) (joins : List Join) : String :=
  String.join (joins.map (render dialect))

end Join

namespace IntoTarget

def render (dialect : Dialect) (target : IntoTarget) : Except Error String :=
  match dialect, target.database with
  | .mysql, _ => .error (.unsupported .mysql .selectInto)
  | .sqlite, _ => .error (.unsupported .sqlite .selectInto)
  | .postgres, some _ => .error (.unsupported .postgres .selectIntoDatabase)
  | .sqlServer, some database =>
    .ok (" INTO " ++ Identifier.quote dialect database ++ ".." ++
      Identifier.quote dialect target.table)
  | _, none => .ok (" INTO " ++ Identifier.quote dialect target.table)

end IntoTarget

/-- What a comparison takes on its right side. -/
inductive ComparandShape where
  | nothing
  | range
  | list
  | single
deriving DecidableEq, Repr

namespace Comparison

def shape : Comparison → ComparandShape
  | isNull => .nothing
  | isNotNull => .nothing
  | between => .range
  | notBetween => .range
  | isIn => .list
  | notIn => .list
  | _ => .single

end Comparison

/-- The clause of a condition that may be empty. -/
def conditionClause (keyword : String) (condition : Sql) : Sql :=
  if condition.isEmpty then [] else .text keyword :: condition

mutual

def Term.render (dialect : Dialect) : Term → Except Error Sql
  | .column name => .ok (.text (Identifier.quote dialect name))
  | .value v => .ok [.bind v]
  | .operator token => .ok (.text token)
  | .call call => call.render dialect
  | .group terms => do
    let inner ← Term.renderList dialect terms
    return Sql.parens (Sql.join " " inner)
  | .subquery query => do
    let inner ← query.render dialect
    return Sql.parens inner

def Term.renderList (dialect : Dialect) : List Term → Except Error (List Sql)
  | [] => .ok []
  | term :: rest => do
    let sql ← term.render dialect
    let more ← Term.renderList dialect rest
    return sql :: more

def Operand.render (dialect : Dialect) : Operand → Except Error Sql
  | .column name => .ok (.text (Identifier.quote dialect name))
  | .expression terms => do
    let parts ← Term.renderList dialect terms
    return Sql.join " " parts

/-- The right side of a comparison with its leading blank. The comparisons with null take no notice
of it. -/
def Comparand.render (dialect : Dialect) (comparison : Comparison) : Comparand → Except Error Sql
  | .nothing =>
    match comparison.shape with
    | .nothing => .ok []
    | _ => .error (.invalid (.badComparand comparison .nothing))
  | .value v =>
    match comparison.shape with
    | .nothing => .ok []
    | .single => .ok [.text " ", .bind v]
    | _ => .error (.invalid (.badComparand comparison (.value v)))
  | .column name =>
    match comparison.shape with
    | .nothing => .ok []
    | .single => .ok (.text (" " ++ Identifier.quote dialect name))
    | _ => .error (.invalid (.badComparand comparison (.column name)))
  | .list values =>
    match comparison.shape with
    | .nothing => .ok []
    | .list => .ok (.text " " :: Sql.parens (Sql.join ", " (values.map fun v => [.bind v])))
    | _ => .error (.invalid (.badComparand comparison (.list values)))
  | .range low high =>
    match comparison.shape with
    | .nothing => .ok []
    | .range => .ok [.text " ", .bind low, .text " AND ", .bind high]
    | _ => .error (.invalid (.badComparand comparison (.range low high)))
  | .subquery query =>
    match comparison.shape with
    | .nothing => .ok []
    | .range => .error (.invalid (.badComparand comparison (.subquery query)))
    | _ => do
      let inner ← query.render dialect
      return Fragment.text " " :: Sql.parens inner

/-- A condition. Membership in the empty list is decided without the operand, which is then not
looked at. -/
def Condition.render (dialect : Dialect) : Condition → Except Error Sql
  | ⟨_, .isIn, .list []⟩ => .ok (.text "1 = 0")
  | ⟨_, .notIn, .list []⟩ => .ok (.text "1 = 1")
  | ⟨operand, comparison, comparand⟩ => do
    let left ← operand.render dialect
    let right ← comparand.render dialect comparison
    return left ++ Fragment.text (" " ++ comparison.sql) :: right

def ConditionNode.render (dialect : Dialect) : ConditionNode → Except Error Sql
  | .test condition => condition.render dialect
  | .exists negated query => do
    let inner ← query.render dialect
    return Fragment.text (if negated then "NOT EXISTS " else "EXISTS ") :: Sql.parens inner
  | .group items => do
    let inner ← ConditionNode.renderItems dialect true items
    return Sql.parens inner

/-- The items of a condition tree; `first` says that none was written before them. Groups without
items are left out. -/
def ConditionNode.renderItems (dialect : Dialect) (first : Bool) :
    List (Connective × ConditionNode) → Except Error Sql
  | [] => .ok []
  | (_, .group []) :: rest => ConditionNode.renderItems dialect first rest
  | (connective, node) :: rest => do
    let part ← node.render dialect
    let more ← ConditionNode.renderItems dialect false rest
    return (if first then [] else Sql.text (" " ++ connective.sql ++ " ")) ++ part ++ more

def Projection.render (dialect : Dialect) : Projection → Except Error Sql
  | ⟨terms, none⟩ => do
    let parts ← Term.renderList dialect terms
    return Sql.join " " parts
  | ⟨terms, some label⟩ => do
    let parts ← Term.renderList dialect terms
    return Sql.join " " parts ++ Sql.text (" AS " ++ Identifier.quote dialect label)

def Projection.renderList (dialect : Dialect) : List Projection → Except Error (List Sql)
  | [] => .ok []
  | column :: rest => do
    let sql ← column.render dialect
    let more ← Projection.renderList dialect rest
    return sql :: more

def Query.render (dialect : Dialect) : Query → Except Error Sql
  | ⟨tables, columns, joins, wheres, groupBy, having, orderBy, limit, offset, distinct, into⟩ => do
    if tables.isEmpty then
      throw (.invalid .selectWithoutTable)
    let projection ← Projection.renderList dialect columns
    let target ←
      match into with
      | none => pure ""
      | some target => target.render dialect
    let wheres ← ConditionNode.renderItems dialect true wheres
    let having ← ConditionNode.renderItems dialect true having
    let head := "SELECT " ++ (if distinct then "DISTINCT " else "") ++
      Pagination.headText dialect limit offset
    let source := target ++ " FROM " ++ TableRef.renderList dialect tables ++
      Join.renderList dialect joins
    let grouping :=
      if groupBy.isEmpty then "" else " GROUP BY " ++ Identifier.quoteList dialect groupBy
    let tail := Sorting.text dialect orderBy ++
      Pagination.tailText dialect limit offset (!orderBy.isEmpty)
    return Sql.text head ++
      (if columns.isEmpty then Sql.text "*" else Sql.join ", " projection) ++
      Sql.text source ++
      conditionClause " WHERE " wheres ++
      Sql.text grouping ++
      conditionClause " HAVING " having ++
      Sql.text tail

end

/-- A condition with an operand that is looked at. -/
theorem Condition.render_of_operand {dialect : Dialect} {operand : Operand}
    {comparison : Comparison} {comparand : Comparand}
    (h : ¬ (comparand = .list [] ∧ (comparison = .isIn ∨ comparison = .notIn))) :
    render dialect ⟨operand, comparison, comparand⟩ =
      operand.render dialect >>= fun left =>
      comparand.render dialect comparison >>= fun right =>
      pure (left ++ Fragment.text (" " ++ comparison.sql) :: right) :=
  render.eq_3 dialect operand comparison comparand (fun hin hnil => h ⟨hnil, .inl hin⟩)
    fun hnotIn hnil => h ⟨hnil, .inr hnotIn⟩

/-- An item that is not left out, before others. -/
theorem ConditionNode.renderItems_cons {dialect : Dialect} {first : Bool} {connective : Connective}
    {node : ConditionNode} {rest : List (Connective × ConditionNode)} (h : node ≠ .group []) :
    renderItems dialect first ((connective, node) :: rest) =
      node.render dialect >>= fun part =>
      renderItems dialect false rest >>= fun more =>
      pure ((if first then [] else Sql.text (" " ++ connective.sql ++ " ")) ++ part ++ more) :=
  renderItems.eq_3 dialect first connective node rest h

/-- An expression: its terms with blanks between them. -/
def Expression.render (dialect : Dialect) (terms : Expression) : Except Error Sql := do
  return Sql.join " " (← Term.renderList dialect terms)

/-- A condition tree. It is empty if all its items are groups without items. -/
def ConditionTree.render (dialect : Dialect) (tree : ConditionTree) : Except Error Sql :=
  ConditionNode.renderItems dialect true tree

def Query.compile (dialect : Dialect) (query : Query) : Except Error Compiled := do
  return (← query.render dialect).compile dialect

end SqlDialects
