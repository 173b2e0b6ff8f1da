import SqlDialects.Change.Render
import SqlDialects.Statement.Compile

/-! The statements that work on rows, and the walk through one of them: from left to right, past all
that any dialect takes notice of. The walk is the same for every dialect. -/

namespace SqlDialects

inductive RowStatement where
  | select (query : Query)
  | insert (insert : Insert)
  | update (update : Update)
  | delete (delete : Delete)

namespace RowStatement

def toStatement : RowStatement → Statement
  | .select q => .select q
  | .insert i => .insert i
  | .update u => .update u
  | .delete d => .delete d

def render (dialect : Dialect) : RowStatement → Except Error Sql
  | .select q => q.render dialect
  | .insert i => i.render dialect
  | .update u => u.render dialect
  | .delete d => d.render dialect

def compile (dialect : Dialect) : RowStatement → Except Error Compiled
  | .select q => q.compile dialect
  | .insert i => i.compile dialect
  | .update u => u.compile dialect
  | .delete d => d.compile dialect

theorem compile_eq_map_render (dialect : Dialect) (s : RowStatement) :
    s.compile dialect = (s.render dialect).map (Sql.compile dialect) := by
  cases s with
  | select q => exact bind_pure_comp _ (q.render dialect)
  | insert i => exact bind_pure_comp _ (i.render dialect)
  | update u => exact bind_pure_comp _ (u.render dialect)
  | delete d => exact bind_pure_comp _ (d.render dialect)

/-- As a statement among others, it compiles to a list of one. -/
theorem compile_toStatement (dialect : Dialect) (s : RowStatement) :
    s.toStatement.compile dialect = (s.compile dialect).map fun compiled => [compiled] := by
  cases s with
  | select q => exact bind_pure_comp _ (q.compile dialect)
  | insert i => exact bind_pure_comp _ (i.compile dialect)
  | update u => exact bind_pure_comp _ (u.compile dialect)
  | delete d => exact bind_pure_comp _ (d.compile dialect)

end RowStatement

/-- What the rendering of a statement meets on its way: the values that it binds, and the parts
that can keep it from being written. -/
inductive Visit where
  | value (value : Value)
  | call (call : Call)
  | test (comparison : Comparison) (comparand : Comparand)
  | source (tables : List TableRef)
  | into (target : IntoTarget)
  | insert (insert : Insert)
  | update (update : Update)
  | delete (delete : Delete)

namespace Visit

/-- The value that is bound at a visit. -/
def value? : Visit → Option Value
  | .value v => some v
  | _ => none

end Visit

/-- The values that are bound on a walk, in order. -/
def boundValues (walk : List Visit) : List Value := walk.filterMap Visit.value?

@[simp] theorem boundValues_nil : boundValues [] = [] := rfl

@[simp] theorem boundValues_append (first second : List Visit) :
    boundValues (first ++ second) = boundValues first ++ boundValues second :=
  List.filterMap_append

@[simp] theorem boundValues_map_value (values : List Value) :
    boundValues (values.map Visit.value) = values := by
  induction values with
  | nil => rfl
  | cons v rest ih => simpa [boundValues, Visit.value?] using ih

/-- The values that a function binds: the pattern of a formatting. -/
def Function.patterns : Function → List Value
  | .scalar (.format pattern) => [.string pattern]
  | _ => []

def Call.walk (call : Call) : List Visit := .call call :: call.function.patterns.map .value

mutual

def Term.walk : Term → List Visit
  | .column _ => []
  | .value v => [.value v]
  | .operator _ => []
  | .call call => call.walk
  | .group terms => Term.walkList terms
  | .subquery query => query.walk

def Term.walkList : List Term → List Visit
  | [] => []
  | term :: rest => term.walk ++ Term.walkList rest

def Operand.walk : Operand → List Visit
  | .column _ => []
  | .expression terms => Term.walkList terms

def Comparand.walk : Comparand → List Visit
  | .nothing => []
  | .value v => [.value v]
  | .column _ => []
  | .list values => values.map .value
  | .range low high => [.value low, .value high]
  | .subquery query => query.walk

/-- Membership in the empty list is decided without a look at the operand, and a comparison with
null without a look at its right side. -/
def Condition.walk : Condition → List Visit
  | ⟨_, .isIn, .list []⟩ => []
  | ⟨_, .notIn, .list []⟩ => []
  | ⟨operand, .isNull, comparand⟩ => operand.walk ++ [.test .isNull comparand]
  | ⟨operand, .isNotNull, comparand⟩ => operand.walk ++ [.test .isNotNull comparand]
  | ⟨operand, comparison, comparand⟩ =>
    operand.walk ++ .test comparison comparand :: comparand.walk

def ConditionNode.walk : ConditionNode → List Visit
  | .test condition => condition.walk
  | .exists _ query => query.walk
  | .group items => ConditionNode.walkItems items

def ConditionNode.walkItems : List (Connective × ConditionNode) → List Visit
  | [] => []
  | (_, node) :: rest => node.walk ++ ConditionNode.walkItems rest

def Projection.walk : Projection → List Visit
  | ⟨terms, _⟩ => Term.walkList terms

def Projection.walkList : List Projection → List Visit
  | [] => []
  | column :: rest => column.walk ++ Projection.walkList rest

def Query.walk : Query → List Visit
  | ⟨tables, columns, _, wheres, _, having, _, _, _, _, into⟩ =>
    .source tables :: Projection.walkList columns ++ into.toList.map .into ++
      ConditionNode.walkItems wheres ++ ConditionNode.walkItems having

end

namespace Condition

variable {operand : Operand} {comparison : Comparison} {comparand : Comparand}

theorem walk_of_null (h : comparison = .isNull ∨ comparison = .isNotNull) :
    walk ⟨operand, comparison, comparand⟩ = operand.walk ++ [.test comparison comparand] := by
  rcases h with rfl | rfl <;> simp only [walk]

theorem walk_of_operand
    (hempty : ¬ (comparand = .list [] ∧ (comparison = .isIn ∨ comparison = .notIn)))
    (hnull : ¬ (comparison = .isNull ∨ comparison = .isNotNull)) :
    walk ⟨operand, comparison, comparand⟩ =
      operand.walk ++ .test comparison comparand :: comparand.walk :=
  walk.eq_5 operand comparison comparand (fun h hnil => hempty ⟨hnil, .inl h⟩)
    (fun h hnil => hempty ⟨hnil, .inr h⟩) (fun h => hnull (.inl h)) fun h => hnull (.inr h)

end Condition

def Written.walk : Written → List Visit
  | .value v => [.value v]
  | .expression terms => Term.walkList terms

namespace RowStatement

def walk : RowStatement → List Visit
  | .select q => q.walk
  | .insert i => .insert i :: i.rows.flatMap (List.flatMap Written.walk)
  | .update u =>
    .update u :: u.assignments.flatMap (fun assignment => assignment.2.walk) ++
      ConditionNode.walkItems u.query.wheres
  | .delete d => .delete d :: ConditionNode.walkItems d.query.wheres

end RowStatement

end SqlDialects
