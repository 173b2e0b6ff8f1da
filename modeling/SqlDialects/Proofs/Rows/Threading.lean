import SqlDialects.Proofs.Rows.InPlace
import SqlDialects.Proofs.Rows.Problem

/-! Statements rendered with their parameters threaded through: every value is numbered and bound
where it is met, the parameters pass from each part to the next, and whether a keyword or a
connective is due is seen from the text that is there. -/

namespace SqlDialects

/-- The parameters of a statement that is being rendered: the number of the last placeholder, and
the values that are bound. -/
structure Parameters where
  index : Nat := 0
  values : List Value := []
deriving DecidableEq, Repr

namespace Parameters

/-- Whether there is a placeholder for each value. -/
def InStep (parameters : Parameters) : Prop := parameters.index = parameters.values.length

/-- The parameters with more values bound behind them. -/
def extend (parameters : Parameters) (values : List Value) : Parameters :=
  ⟨parameters.index + values.length, parameters.values ++ values⟩

/-- The statement of these parameters, with its whole text. -/
def finish (parameters : Parameters) (sql : String) : Compiled := ⟨sql, parameters.values⟩

end Parameters

/-- Renderings with parameters. What is bound before a failure stays bound. -/
abbrev Threaded := EStateM Error Parameters

namespace Threaded

def ofResult : Except Error α → Threaded α
  | .ok a => pure a
  | .error e => throw e

/-- Bind a value to the next placeholder. -/
def bindValue (dialect : Dialect) (value : Value) : Threaded String := fun before =>
  let index := before.index + 1
  .ok (dialect.placeholder index) ⟨index, before.values ++ [value]⟩

end Threaded

/-- The clause of a condition that may be without text. -/
def clauseText (keyword condition : String) : String :=
  if condition = "" then "" else keyword ++ condition

section

variable (dialect : Dialect)

/-- A call with a column that is already quoted. The pattern of a formatting is bound, and its
placeholder stands where the dialect has the pattern. -/
def ScalarFunction.thread (column : String) (function : ScalarFunction) : Threaded String := do
  match function with
  | .format pattern =>
    let placeholder ← Threaded.bindValue dialect (.string pattern)
    return function.inPlace dialect (fun _ => placeholder) column
  | _ => return function.inPlace dialect (fun _ => "") column

def Call.thread (call : Call) : Threaded String :=
  match call.function with
  | .aggregate function =>
    Threaded.ofResult
      (function.render dialect call.distinct (call.columns.map (Identifier.quote dialect)))
  | .scalar .now => ScalarFunction.now.thread dialect ""
  | .scalar function =>
    match call.columns with
    | [] => throw (.invalid (.functionWithoutColumn function))
    | column :: _ => function.thread dialect (Identifier.quote dialect column)

/-- The clauses of a query as texts, put together. -/
def Query.clauses (query : Query) (columns : List String) (target wheres having : String) :
    String :=
  query.opening dialect ++ (if query.columns.isEmpty then "*" else Text.join ", " columns) ++
    query.route dialect target ++ clauseText " WHERE " wheres ++ query.grouping dialect ++
    clauseText " HAVING " having ++ query.closing dialect

mutual

def Term.thread : Term → Threaded String
  | .column name => return Identifier.quote dialect name
  | .value v => Threaded.bindValue dialect v
  | .operator token => return token
  | .call call => call.thread dialect
  | .group terms => do
    let inner ← Term.threadList terms
    return inParens (Text.join " " inner)
  | .subquery query => do
    let inner ← query.thread
    return inParens inner

def Term.threadList : List Term → Threaded (List String)
  | [] => return []
  | term :: rest => do
    let text ← term.thread
    let more ← Term.threadList rest
    return text :: more

def Operand.thread : Operand → Threaded String
  | .column name => return Identifier.quote dialect name
  | .expression terms => do
    let parts ← Term.threadList terms
    return Text.join " " parts

/-- The right side of a comparison that takes it, with its leading blank. -/
def Comparand.thread : Comparand → Threaded String
  | .nothing => return ""
  | .value v => do
    let placeholder ← Threaded.bindValue dialect v
    return " " ++ placeholder
  | .column name => return " " ++ Identifier.quote dialect name
  | .list values => do
    let placeholders ← values.mapM (Threaded.bindValue dialect)
    return " " ++ inParens (Text.join ", " placeholders)
  | .range low high => do
    let lowest ← Threaded.bindValue dialect low
    let highest ← Threaded.bindValue dialect high
    return " " ++ lowest ++ " AND " ++ highest
  | .subquery query => do
    let inner ← query.thread
    return " " ++ inParens inner

/-- Membership in the empty list is decided before the operand is rendered, so that nothing in the
operand is bound. What a comparison does not take is found out behind the operand. -/
def Condition.thread : Condition → Threaded String
  | ⟨_, .isIn, .list []⟩ => return "1 = 0"
  | ⟨_, .notIn, .list []⟩ => return "1 = 1"
  | ⟨operand, comparison, comparand⟩ => do
    let left ← operand.thread
    if comparison = .isNull ∨ comparison = .isNotNull then
      return left ++ " " ++ comparison.sql
    else if comparison.takes comparand then
      let right ← comparand.thread
      return left ++ " " ++ comparison.sql ++ right
    else
      throw (.invalid (.badComparand comparison comparand))

def ConditionNode.thread : ConditionNode → Threaded String
  | .test condition => condition.thread
  | .exists negated query => do
    let inner ← query.thread
    return (if negated then "NOT EXISTS " else "EXISTS ") ++ inParens inner
  | .group items => do
    let inner ← ConditionNode.threadItems "" items
    return inParens inner

/-- The items of a condition tree behind the text of those before them. Groups without items are
left out. -/
def ConditionNode.threadItems (text : String) :
    List (Connective × ConditionNode) → Threaded String
  | [] => return text
  | (_, .group []) :: rest => ConditionNode.threadItems text rest
  | (connective, node) :: rest => do
    let part ← node.thread
    let link := if text = "" then "" else " " ++ connective.sql ++ " "
    ConditionNode.threadItems (text ++ link ++ part) rest

def Projection.thread : Projection → Threaded String
  | ⟨terms, label⟩ => do
    let parts ← Term.threadList terms
    return Text.join " " parts ++ label.elim "" (" AS " ++ Identifier.quote dialect ·)

def Projection.threadList : List Projection → Threaded (List String)
  | [] => return []
  | column :: rest => do
    let text ← column.thread
    let more ← Projection.threadList rest
    return text :: more

def Query.thread : Query → Threaded String
  | query@⟨tables, columns, _, wheres, _, having, _, _, _, _, into⟩ =>
    if tables.isEmpty then throw (.invalid .selectWithoutTable)
    else do
      let columnTexts ← Projection.threadList columns
      let target ← Threaded.ofResult (into.elim (.ok "") (IntoTarget.render dialect))
      let whereText ← ConditionNode.threadItems "" wheres
      let havingText ← ConditionNode.threadItems "" having
      return query.clauses dialect columnTexts target whereText havingText

end

/-- The condition of a change as a clause. -/
def ConditionTree.threadClause (tree : ConditionTree) : Threaded String := do
  let condition ← ConditionNode.threadItems dialect "" tree
  return clauseText " WHERE " condition

def Written.thread : Written → Threaded String
  | .value v => Threaded.bindValue dialect v
  | .expression terms => do
    let parts ← Term.threadList dialect terms
    return Text.join " " parts

namespace Insert

def threadRow (row : List Written) : Threaded String := do
  let values ← row.mapM (Written.thread dialect)
  return inParens (Text.join ", " values)

/-- What keeps an insertion from being written is found out before anything is bound. -/
def thread (insert : Insert) : Threaded String :=
  match insert.problem? with
  | some problem => throw (.invalid problem)
  | none => do
    let rows ← insert.rows.mapM (threadRow dialect)
    return "INSERT INTO " ++ Identifier.quote dialect insert.table ++ " (" ++
      Identifier.quoteList dialect insert.columns ++ ") VALUES " ++ Text.join ", " rows

end Insert

namespace Update

def threadAssignment (assignment : String × Written) : Threaded String := do
  let written ← assignment.2.thread dialect
  return Identifier.quote dialect assignment.1 ++ " = " ++ written

def thread (update : Update) : Threaded String :=
  if update.query.tables.isEmpty then throw (.invalid .updateWithoutTable)
  else if update.assignments.isEmpty then throw (.invalid .updateWithoutAssignment)
  else do
    let assignments ← update.assignments.mapM (threadAssignment dialect)
    let wheres ← ConditionTree.threadClause dialect update.query.wheres
    return "UPDATE " ++ TableRef.renderList dialect update.query.tables ++ " SET " ++
      Text.join ", " assignments ++ wheres

end Update

namespace Delete

/-- The list of tables that lose rows, if they are named. -/
def threadTargets (delete : Delete) (table : TableRef) : Threaded String :=
  if delete.namesTargets then do
    let names := if delete.targets.isEmpty then [table.label.getD table.name] else delete.targets
    let text ← Threaded.ofResult (targetText dialect names)
    return text ++ " "
  else
    return ""

def thread (delete : Delete) : Threaded String :=
  match delete.query.tables with
  | [] => throw (.invalid .deleteWithoutTable)
  | table :: _ => do
    let targets ← delete.threadTargets dialect table
    let wheres ← ConditionTree.threadClause dialect delete.query.wheres
    return "DELETE " ++ targets ++ "FROM " ++ TableRef.renderList dialect delete.query.tables ++
      Join.renderList dialect delete.query.joins ++ wheres

end Delete

def RowStatement.thread : RowStatement → Threaded String
  | .select q => q.thread dialect
  | .insert i => i.thread dialect
  | .update u => u.thread dialect
  | .delete d => d.thread dialect

end

end SqlDialects
