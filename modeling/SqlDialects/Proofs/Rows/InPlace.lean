import SqlDialects.Proofs.Rows.Walk

/-! Statements with their values in place: the text in which every value is spelled, by any
spelling, where it stands in the statement. Nothing is numbered or collected, and a statement that
a dialect refuses has a text too. -/

namespace SqlDialects

def inParens (text : String) : String := "(" ++ text ++ ")"

section

variable (dialect : Dialect) (ofValue : Value → String)

/-- A call of a scalar function with a column that is already quoted. -/
def ScalarFunction.inPlace (column : String) : ScalarFunction → String
  | .upper => (if dialect = .mysql then "UCASE(" else "UPPER(") ++ column ++ ")"
  | .lower => (if dialect = .mysql then "LCASE(" else "LOWER(") ++ column ++ ")"
  | .mid start count => midText dialect column start count
  | .length => (if dialect = .sqlServer then "LEN(" else "LENGTH(") ++ column ++ ")"
  | .round decimals =>
    (if dialect = .postgres then "ROUND(CAST(" ++ column ++ " AS NUMERIC), "
      else "ROUND(" ++ column ++ ", ") ++ toString decimals.toNat ++ ")"
  | .format pattern =>
    match dialect with
    | .postgres => "to_char(" ++ column ++ ", " ++ ofValue (.string pattern) ++ ")"
    | .sqlite => "printf(" ++ ofValue (.string pattern) ++ ", " ++ column ++ ")"
    | _ => "FORMAT(" ++ column ++ ", " ++ ofValue (.string pattern) ++ ")"
  | .now =>
    match dialect with
    | .sqlite => "datetime('now')"
    | .sqlServer => "GETDATE()"
    | _ => "NOW()"

/-- The arguments of an aggregate: all rows, a list, or a tuple where only one argument may be
distinct. -/
def Aggregate.argumentText (distinct : Bool) (columns : List String) : String :=
  if columns.isEmpty then "*"
  else if distinct && 1 < columns.length && dialect = .postgres then
    inParens (Text.join ", " columns)
  else Text.join ", " columns

def Call.inPlace (call : Call) : String :=
  let columns := call.columns.map (Identifier.quote dialect)
  match call.function with
  | .aggregate function =>
    function.callText call.distinct (Aggregate.argumentText dialect call.distinct columns)
  | .scalar function => function.inPlace dialect ofValue (columns.headD "")

def IntoTarget.text (target : IntoTarget) : String :=
  match target.database with
  | some database =>
    " INTO " ++ Identifier.quote dialect database ++ ".." ++ Identifier.quote dialect target.table
  | none => " INTO " ++ Identifier.quote dialect target.table

/-- Whether a tree of conditions holds more than groups without items. -/
def hasEntries (items : List (Connective × ConditionNode)) : Bool :=
  items.any fun
    | (_, .group []) => false
    | _ => true

/-- The clause of a tree of conditions, given the text of the tree. -/
def clauseInPlace (keyword : String) (items : List (Connective × ConditionNode)) (text : String) :
    String :=
  if hasEntries items then keyword ++ text else ""

namespace Query

/-- The query up to its columns. -/
def opening (query : Query) : String :=
  "SELECT " ++ (if query.distinct then "DISTINCT " else "") ++
    Pagination.headText dialect query.limit query.offset

/-- Where the rows go to, by the text `target`, and come from. -/
def route (query : Query) (target : String) : String :=
  target ++ " FROM " ++ TableRef.renderList dialect query.tables ++
    Join.renderList dialect query.joins

def grouping (query : Query) : String :=
  if query.groupBy.isEmpty then "" else " GROUP BY " ++ Identifier.quoteList dialect query.groupBy

/-- The query after its conditions. -/
def closing (query : Query) : String :=
  Sorting.text dialect query.orderBy ++
    Pagination.tailText dialect query.limit query.offset (!query.orderBy.isEmpty)

/-- The clauses of a query, given the texts of its columns and conditions. -/
def clausesInPlace (query : Query) (columns : List String) (wheres having : String) : String :=
  query.opening dialect ++ (if query.columns.isEmpty then "*" else Text.join ", " columns) ++
    query.route dialect (query.into.elim "" (IntoTarget.text dialect)) ++
    clauseInPlace " WHERE " query.wheres wheres ++ query.grouping dialect ++
    clauseInPlace " HAVING " query.having having ++ query.closing dialect

end Query

mutual

def Term.inPlace : Term → String
  | .column name => Identifier.quote dialect name
  | .value v => ofValue v
  | .operator token => token
  | .call call => call.inPlace dialect ofValue
  | .group terms => inParens (Text.join " " (Term.inPlaceList terms))
  | .subquery query => inParens query.inPlace

def Term.inPlaceList : List Term → List String
  | [] => []
  | term :: rest => term.inPlace :: Term.inPlaceList rest

def Operand.inPlace : Operand → String
  | .column name => Identifier.quote dialect name
  | .expression terms => Text.join " " (Term.inPlaceList terms)

def Comparand.inPlace : Comparand → String
  | .nothing => ""
  | .value v => " " ++ ofValue v
  | .column name => " " ++ Identifier.quote dialect name
  | .list values => " " ++ inParens (Text.join ", " (values.map ofValue))
  | .range low high => " " ++ ofValue low ++ " AND " ++ ofValue high
  | .subquery query => " " ++ inParens query.inPlace

def Condition.inPlace : Condition → String
  | ⟨_, .isIn, .list []⟩ => "1 = 0"
  | ⟨_, .notIn, .list []⟩ => "1 = 1"
  | ⟨operand, .isNull, _⟩ => operand.inPlace ++ " IS NULL"
  | ⟨operand, .isNotNull, _⟩ => operand.inPlace ++ " IS NOT NULL"
  | ⟨operand, comparison, comparand⟩ =>
    operand.inPlace ++ " " ++ comparison.sql ++ comparand.inPlace

def ConditionNode.inPlace : ConditionNode → String
  | .test condition => condition.inPlace
  | .exists negated query =>
    (if negated then "NOT EXISTS " else "EXISTS ") ++ inParens query.inPlace
  | .group items => inParens (ConditionNode.inPlaceItems true items)

/-- The items of a tree; `first` says that none was written before them. -/
def ConditionNode.inPlaceItems (first : Bool) : List (Connective × ConditionNode) → String
  | [] => ""
  | (_, .group []) :: rest => ConditionNode.inPlaceItems first rest
  | (connective, node) :: rest =>
    (if first then "" else " " ++ connective.sql ++ " ") ++ node.inPlace ++
      ConditionNode.inPlaceItems false rest

def Projection.inPlace : Projection → String
  | ⟨terms, none⟩ => Text.join " " (Term.inPlaceList terms)
  | ⟨terms, some label⟩ =>
    Text.join " " (Term.inPlaceList terms) ++ " AS " ++ Identifier.quote dialect label

def Projection.inPlaceList : List Projection → List String
  | [] => []
  | column :: rest => column.inPlace :: Projection.inPlaceList rest

def Query.inPlace : Query → String
  | query@⟨_, columns, _, wheres, _, having, _, _, _, _, _⟩ =>
    query.clausesInPlace dialect (Projection.inPlaceList columns)
      (ConditionNode.inPlaceItems true wheres) (ConditionNode.inPlaceItems true having)

end

namespace Condition

variable {operand : Operand} {comparison : Comparison} {comparand : Comparand}

theorem inPlace_of_null (h : comparison = .isNull ∨ comparison = .isNotNull) :
    inPlace dialect ofValue ⟨operand, comparison, comparand⟩ =
      operand.inPlace dialect ofValue ++ (" " ++ comparison.sql) := by
  rcases h with rfl | rfl <;> simp only [inPlace] <;> rfl

theorem inPlace_of_operand
    (hempty : ¬ (comparand = .list [] ∧ (comparison = .isIn ∨ comparison = .notIn)))
    (hnull : ¬ (comparison = .isNull ∨ comparison = .isNotNull)) :
    inPlace dialect ofValue ⟨operand, comparison, comparand⟩ =
      operand.inPlace dialect ofValue ++
        ((" " ++ comparison.sql) ++ comparand.inPlace dialect ofValue) := by
  rw [inPlace.eq_5 dialect ofValue operand comparison comparand
    (fun h hnil => hempty ⟨hnil, .inl h⟩) (fun h hnil => hempty ⟨hnil, .inr h⟩)
    (fun h => hnull (.inl h)) fun h => hnull (.inr h)]
  simp only [String.append_assoc]

end Condition

theorem ConditionNode.inPlaceItems_cons {first : Bool} {connective : Connective}
    {node : ConditionNode} {rest : List (Connective × ConditionNode)} (h : node ≠ .group []) :
    inPlaceItems dialect ofValue first ((connective, node) :: rest) =
      (if first then "" else " " ++ connective.sql ++ " ") ++ node.inPlace dialect ofValue ++
        inPlaceItems dialect ofValue false rest :=
  inPlaceItems.eq_3 dialect ofValue first connective node rest h

/-- The conditions of a change. -/
def whereInPlace (items : ConditionTree) : String :=
  clauseInPlace " WHERE " items (ConditionNode.inPlaceItems dialect ofValue true items)

def Written.inPlace : Written → String
  | .value v => ofValue v
  | .expression terms => Text.join " " (Term.inPlaceList dialect ofValue terms)

def Insert.inPlace (insert : Insert) : String :=
  let rows := insert.rows.map fun row =>
    inParens (Text.join ", " (row.map (Written.inPlace dialect ofValue)))
  "INSERT INTO " ++ Identifier.quote dialect insert.table ++ " (" ++
    Identifier.quoteList dialect insert.columns ++ ") VALUES " ++ Text.join ", " rows

def Update.inPlace (update : Update) : String :=
  let assignments := update.assignments.map fun (column, written) =>
    Identifier.quote dialect column ++ " = " ++ written.inPlace dialect ofValue
  "UPDATE " ++ TableRef.renderList dialect update.query.tables ++ " SET " ++
    Text.join ", " assignments ++ whereInPlace dialect ofValue update.query.wheres

/-- The names of the tables that lose rows, where they are named. -/
def Delete.targetsInPlace (delete : Delete) : String :=
  if delete.targets ≠ [] then Identifier.quoteList dialect delete.targets ++ " "
  else if delete.query.joins ≠ [] ∨ 1 < delete.query.tables.length then
    match delete.query.tables with
    | [] => ""
    | table :: _ => Identifier.quote dialect (table.label.getD table.name) ++ " "
  else ""

def Delete.inPlace (delete : Delete) : String :=
  "DELETE " ++ delete.targetsInPlace dialect ++ "FROM " ++
    TableRef.renderList dialect delete.query.tables ++
    Join.renderList dialect delete.query.joins ++
    whereInPlace dialect ofValue delete.query.wheres

def RowStatement.inPlace : RowStatement → String
  | .select q => q.inPlace dialect ofValue
  | .insert i => i.inPlace dialect ofValue
  | .update u => u.inPlace dialect ofValue
  | .delete d => d.inPlace dialect ofValue

end

end SqlDialects
