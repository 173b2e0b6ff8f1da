import SqlDialects.Change.Basic
import SqlDialects.Query.Render

/-! Changes of rows as SQL. What is missing is reported before anything is rendered. -/

namespace SqlDialects

namespace Written

def render (dialect : Dialect) : Written → Except Error Sql
  | value v => .ok [.bind v]
  | expression terms => Expression.render dialect terms

end Written

namespace Insert

/-- The first row, counted from `index`, that does not have a value for every column. -/
def findRagged (columns : Nat) : Nat → List (List Written) → Option (Nat × Nat)
  | _, [] => none
  | index, row :: rest =>
    if row.length = columns then findRagged columns (index + 1) rest else some (index, row.length)

/-- What keeps the insertion from being written. -/
def problem? (insert : Insert) : Option InvalidArgument :=
  if insert.table = "" then some .insertWithoutTable
  else if insert.columns.isEmpty then some .insertWithoutColumn
  else if insert.rows.isEmpty then some .insertWithoutRow
  else
    match findRagged insert.columns.length 0 insert.rows with
    | some (index, values) => some (.raggedRow index values insert.columns.length)
    | none => none

def renderRow (dialect : Dialect) (row : List Written) : Except Error Sql := do
  let values ← row.mapM (Written.render dialect)
  return Sql.parens (Sql.join ", " values)

def render (dialect : Dialect) (insert : Insert) : Except Error Sql := do
  match insert.problem? with
  | some problem => throw (.invalid problem)
  | none =>
    let rows ← insert.rows.mapM (renderRow dialect)
    return Sql.text ("INSERT INTO " ++ Identifier.quote dialect insert.table ++ " (" ++
      Identifier.quoteList dialect insert.columns ++ ") VALUES ") ++ Sql.join ", " rows

def compile (dialect : Dialect) (insert : Insert) : Except Error Compiled := do
  return (← insert.render dialect).compile dialect

end Insert

namespace Update

def renderAssignment (dialect : Dialect) (assignment : String × Written) : Except Error Sql := do
  let written ← assignment.2.render dialect
  return Sql.text (Identifier.quote dialect assignment.1 ++ " = ") ++ written

def render (dialect : Dialect) (update : Update) : Except Error Sql := do
  if update.query.tables.isEmpty then
    throw (.invalid .updateWithoutTable)
  if update.assignments.isEmpty then
    throw (.invalid .updateWithoutAssignment)
  let assignments ← update.assignments.mapM (renderAssignment dialect)
  let wheres ← ConditionTree.render dialect update.query.wheres
  return Sql.text ("UPDATE " ++ TableRef.renderList dialect update.query.tables ++ " SET ") ++
    Sql.join ", " assignments ++ conditionClause " WHERE " wheres

def compile (dialect : Dialect) (update : Update) : Except Error Compiled := do
  return (← update.render dialect).compile dialect

end Update

namespace Delete

/-- The list of tables that lose rows, for a deletion that names them. -/
def targetText (dialect : Dialect) (targets : List String) : Except Error String :=
  match dialect, targets with
  | .mysql, targets => .ok (Identifier.quoteList .mysql targets)
  | .sqlServer, [target] => .ok (Identifier.quote .sqlServer target)
  | .sqlServer, _ => .error (.unsupported .sqlServer .deleteFromMany)
  | .postgres, _ => .error (.unsupported .postgres .joinedDelete)
  | .sqlite, _ => .error (.unsupported .sqlite .joinedDelete)

/-- Whether rows come out of more than one table, so that the one that loses them is named. -/
def namesTargets (delete : Delete) : Bool :=
  !delete.targets.isEmpty || !delete.query.joins.isEmpty || 1 < delete.query.tables.length

def render (dialect : Dialect) (delete : Delete) : Except Error Sql := do
  match delete.query.tables with
  | [] => throw (.invalid .deleteWithoutTable)
  | table :: _ =>
    let targets ←
      if delete.namesTargets then do
        let names :=
          if delete.targets.isEmpty then [table.label.getD table.name] else delete.targets
        let text ← targetText dialect names
        pure (text ++ " ")
      else
        pure ""
    let wheres ← ConditionTree.render dialect delete.query.wheres
    return Sql.text ("DELETE " ++ targets ++ "FROM " ++
      TableRef.renderList dialect delete.query.tables ++
      Join.renderList dialect delete.query.joins) ++ conditionClause " WHERE " wheres

def compile (dialect : Dialect) (delete : Delete) : Except Error Compiled := do
  return (← delete.render dialect).compile dialect

end Delete

end SqlDialects
