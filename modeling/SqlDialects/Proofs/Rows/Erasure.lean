import SqlDialects.Proofs.Rows.Walk

/-! Statements without their values: the empty string stands for every value and for every pattern
of a formatting, and all else is kept, the lengths of lists included. -/

namespace SqlDialects

/-- What stands for a value that is erased. -/
def Value.blank : Value := .string ""

def ScalarFunction.withoutPattern : ScalarFunction → ScalarFunction
  | .format _ => .format ""
  | function => function

def Function.withoutPattern : Function → Function
  | .aggregate function => .aggregate function
  | .scalar function => .scalar function.withoutPattern

def Call.withoutPattern (call : Call) : Call :=
  { call with function := call.function.withoutPattern }

mutual

def Term.withoutValues : Term → Term
  | .column name => .column name
  | .value _ => .value .blank
  | .operator token => .operator token
  | .call call => .call call.withoutPattern
  | .group terms => .group (Term.withoutValuesList terms)
  | .subquery query => .subquery query.withoutValues

def Term.withoutValuesList : List Term → List Term
  | [] => []
  | term :: rest => term.withoutValues :: Term.withoutValuesList rest

def Operand.withoutValues : Operand → Operand
  | .column name => .column name
  | .expression terms => .expression (Term.withoutValuesList terms)

def Comparand.withoutValues : Comparand → Comparand
  | .nothing => .nothing
  | .value _ => .value .blank
  | .column name => .column name
  | .list values => .list (values.map fun _ => .blank)
  | .range _ _ => .range .blank .blank
  | .subquery query => .subquery query.withoutValues

def Condition.withoutValues : Condition → Condition
  | ⟨operand, comparison, comparand⟩ =>
    ⟨operand.withoutValues, comparison, comparand.withoutValues⟩

def ConditionNode.withoutValues : ConditionNode → ConditionNode
  | .test condition => .test condition.withoutValues
  | .exists negated query => .exists negated query.withoutValues
  | .group items => .group (ConditionNode.withoutValuesItems items)

def ConditionNode.withoutValuesItems :
    List (Connective × ConditionNode) → List (Connective × ConditionNode)
  | [] => []
  | (connective, node) :: rest =>
    (connective, node.withoutValues) :: ConditionNode.withoutValuesItems rest

def Projection.withoutValues : Projection → Projection
  | ⟨terms, label⟩ => ⟨Term.withoutValuesList terms, label⟩

def Projection.withoutValuesList : List Projection → List Projection
  | [] => []
  | column :: rest => column.withoutValues :: Projection.withoutValuesList rest

def Query.withoutValues : Query → Query
  | ⟨tables, columns, joins, wheres, groupBy, having, orderBy, limit, offset, distinct, into⟩ =>
    ⟨tables, Projection.withoutValuesList columns, joins, ConditionNode.withoutValuesItems wheres,
      groupBy, ConditionNode.withoutValuesItems having, orderBy, limit, offset, distinct, into⟩

end

namespace Query

variable (query : Query)

@[simp] theorem tables_withoutValues : query.withoutValues.tables = query.tables := by
  cases query; rfl

@[simp] theorem columns_withoutValues :
    query.withoutValues.columns = Projection.withoutValuesList query.columns := by
  cases query; rfl

@[simp] theorem joins_withoutValues : query.withoutValues.joins = query.joins := by
  cases query; rfl

@[simp] theorem wheres_withoutValues :
    query.withoutValues.wheres = ConditionNode.withoutValuesItems query.wheres := by
  cases query; rfl

@[simp] theorem having_withoutValues :
    query.withoutValues.having = ConditionNode.withoutValuesItems query.having := by
  cases query; rfl

@[simp] theorem into_withoutValues : query.withoutValues.into = query.into := by
  cases query; rfl

end Query

def Written.withoutValues : Written → Written
  | .value _ => .value .blank
  | .expression terms => .expression (Term.withoutValuesList terms)

def Insert.withoutValues (insert : Insert) : Insert :=
  { insert with rows := insert.rows.map (List.map Written.withoutValues) }

def Update.withoutValues (update : Update) : Update where
  query := update.query.withoutValues
  assignments := update.assignments.map fun (column, written) => (column, written.withoutValues)

def Delete.withoutValues (delete : Delete) : Delete :=
  { delete with query := delete.query.withoutValues }

def RowStatement.withoutValues : RowStatement → RowStatement
  | .select q => .select q.withoutValues
  | .insert i => .insert i.withoutValues
  | .update u => .update u.withoutValues
  | .delete d => .delete d.withoutValues

def Fragment.withoutValue : Fragment → Fragment
  | .text s => .text s
  | .bind _ => .bind .blank

namespace Sql

def withoutValues (sql : Sql) : Sql := sql.map Fragment.withoutValue

@[simp] theorem withoutValues_nil : withoutValues [] = [] := rfl

@[simp] theorem withoutValues_text_cons (s : String) (sql : Sql) :
    withoutValues (.text s :: sql) = .text s :: withoutValues sql := rfl

@[simp] theorem withoutValues_bind_cons (v : Value) (sql : Sql) :
    withoutValues (.bind v :: sql) = .bind .blank :: withoutValues sql := rfl

@[simp] theorem withoutValues_text (s : String) : withoutValues (text s) = text s := rfl

@[simp] theorem withoutValues_append (first second : Sql) :
    withoutValues (first ++ second) = withoutValues first ++ withoutValues second :=
  List.map_append

@[simp] theorem withoutValues_parens (sql : Sql) :
    withoutValues (parens sql) = parens (withoutValues sql) := by
  simp [parens]

@[simp] theorem withoutValues_join (separator : String) (parts : List Sql) :
    withoutValues (join separator parts) = join separator (parts.map withoutValues) := by
  fun_induction join separator parts with
  | case1 => rfl
  | case2 part => rfl
  | case3 part next rest ih => simp [join, ih]

@[simp] theorem withoutValues_conditionClause (keyword : String) (sql : Sql) :
    withoutValues (conditionClause keyword sql) = conditionClause keyword (withoutValues sql) := by
  cases sql <;> rfl

/-- The text is the same without the values. -/
theorem write_withoutValues (dialect : Dialect) (next : Nat) (sql : Sql) :
    write dialect next (withoutValues sql) = write dialect next sql := by
  induction sql generalizing next with
  | nil => rfl
  | cons fragment rest ih => cases fragment <;> simp [write, ih]

end Sql

/-- A cause without the values that it quotes. -/
def InvalidArgument.withoutValues : InvalidArgument → InvalidArgument
  | .functionWithoutColumn function => .functionWithoutColumn function.withoutPattern
  | .badComparand comparison comparand => .badComparand comparison comparand.withoutValues
  | cause => cause

def Error.withoutValues : Error → Error
  | .invalid cause => .invalid cause.withoutValues
  | e => e

/-- The variant of an error, without what it carries. -/
inductive ErrorVariant where
  | invalid
  | unsupported
  | missingColumnType
  | database
  | config
deriving DecidableEq, Repr

def Error.variant : Error → ErrorVariant
  | .invalid _ => .invalid
  | .unsupported _ _ => .unsupported
  | .missingColumnType _ _ => .missingColumnType
  | .database _ => .database
  | .config _ => .config

theorem Error.variant_withoutValues (e : Error) : e.withoutValues.variant = e.variant := by
  cases e <;> rfl

/-- A result without values, be it an error or what `erase` takes them from. -/
def resultWithoutValues (erase : α → α) : Except Error α → Except Error α
  | .error e => .error e.withoutValues
  | .ok a => .ok (erase a)

/-- A rendering that goes on with another one commutes with erasure if both do. -/
theorem resultWithoutValues_bind {erase : α → α} {eraseNext : β → β} {x y : Except Error α}
    {next nextErased : α → Except Error β} (hx : y = resultWithoutValues erase x)
    (hnext : ∀ a, nextErased (erase a) = resultWithoutValues eraseNext (next a)) :
    y >>= nextErased = resultWithoutValues eraseNext (x >>= next) := by
  subst hx
  cases x with
  | error e => rfl
  | ok a => exact hnext a

/-- A rendering that cannot fail any more commutes with erasure if its last step does. -/
theorem resultWithoutValues_map {erase : α → α} {eraseNext : β → β} {x y : Except Error α}
    {next nextErased : α → β} (hx : y = resultWithoutValues erase x)
    (hnext : ∀ a, nextErased (erase a) = eraseNext (next a)) :
    (y >>= fun a => pure (nextErased a)) =
      resultWithoutValues eraseNext (x >>= fun a => pure (next a)) :=
  resultWithoutValues_bind hx fun a => congrArg Except.ok (hnext a)

theorem mapM_withoutValues {erase : α → α} {render : α → Except Error Sql}
    (h : ∀ item, render (erase item) = resultWithoutValues Sql.withoutValues (render item))
    (items : List α) :
    (items.map erase).mapM render =
      resultWithoutValues (List.map Sql.withoutValues) (items.mapM render) := by
  induction items with
  | nil => rfl
  | cons item rest ih =>
    simp only [List.map_cons, List.mapM_cons]
    exact resultWithoutValues_bind (h item) fun sql => resultWithoutValues_map ih fun more => rfl

end SqlDialects
