import SqlDialects.Proofs.Rows.Changes
import SqlDialects.Proofs.Rows.Erasure

/-! Rendering commutes with the erasure of values, so no value has a say in the text that is
compiled, or in whether there is one. -/

namespace SqlDialects

section

variable (dialect : Dialect)

theorem ScalarFunction.render_withoutPattern (function : ScalarFunction) (column : String) :
    function.withoutPattern.render dialect column =
      (function.render dialect column).withoutValues := by
  cases function <;> cases dialect <;> rfl

theorem Aggregate.render_withoutValues (function : Aggregate) (distinct : Bool)
    (columns : List String) :
    function.render dialect distinct columns =
      resultWithoutValues id (function.render dialect distinct columns) := by
  simp only [render]
  split
  · cases dialect <;> rfl
  · rfl

theorem IntoTarget.renderOption_withoutValues (into : Option IntoTarget) :
    renderOption dialect into = resultWithoutValues id (renderOption dialect into) := by
  cases into with
  | none => rfl
  | some target =>
    obtain ⟨table, database⟩ := target
    cases dialect <;> cases database <;> rfl

theorem Call.render_withoutPattern (call : Call) :
    call.withoutPattern.render dialect =
      resultWithoutValues Sql.withoutValues (call.render dialect) := by
  obtain ⟨function, columns, distinct⟩ := call
  cases function with
  | aggregate function =>
    simp only [withoutPattern, Function.withoutPattern, render]
    exact resultWithoutValues_map (function.render_withoutValues dialect distinct _) fun _ => rfl
  | scalar function =>
    cases columns with
    | nil => cases function <;> first | rfl | (cases dialect <;> rfl)
    | cons column rest =>
      have hrender := function.render_withoutPattern dialect (Identifier.quote dialect column)
      cases function with
      | now => cases dialect <;> rfl
      | _ => exact congrArg Except.ok hrender

namespace Comparand

theorem withoutValues_eq_empty_iff (comparand : Comparand) :
    comparand.withoutValues = .list [] ↔ comparand = .list [] := by
  cases comparand <;> simp [withoutValues]

theorem render_withoutValues_of_query {comparand : Comparand} (comparison : Comparison)
    (h : ∀ query, comparand = .subquery query →
      query.withoutValues.render dialect =
        resultWithoutValues Sql.withoutValues (query.render dialect)) :
    comparand.withoutValues.render dialect comparison =
      resultWithoutValues Sql.withoutValues (comparand.render dialect comparison) := by
  cases comparand with
  | subquery query =>
    simp only [withoutValues, render]
    cases comparison.shape with
    | nothing | range => rfl
    | list | single =>
      exact resultWithoutValues_map (h query rfl) fun inner => by simp
  | list values =>
    simp only [withoutValues, render]
    cases comparison.shape with
    | list => simp [resultWithoutValues, Function.comp_def]
    | nothing | single | range => rfl
  | _ =>
    simp only [withoutValues, render]
    cases comparison.shape <;> rfl

end Comparand

theorem Condition.render_withoutValues_of_sides {operand : Operand} {comparison : Comparison}
    {comparand : Comparand}
    (hleft : operand.withoutValues.render dialect =
      resultWithoutValues Sql.withoutValues (operand.render dialect))
    (hright : comparand.withoutValues.render dialect comparison =
      resultWithoutValues Sql.withoutValues (comparand.render dialect comparison)) :
    (withoutValues ⟨operand, comparison, comparand⟩).render dialect =
      resultWithoutValues Sql.withoutValues
        (render dialect ⟨operand, comparison, comparand⟩) := by
  by_cases hempty : comparand = .list [] ∧ (comparison = .isIn ∨ comparison = .notIn)
  · obtain ⟨rfl, rfl | rfl⟩ := hempty <;> rfl
  · rw [withoutValues, render_of_operand hempty, render_of_operand (by
      rwa [comparand.withoutValues_eq_empty_iff])]
    exact resultWithoutValues_bind hleft fun left => resultWithoutValues_map hright fun right => by
      simp

theorem ConditionNode.withoutValues_eq_empty_iff (node : ConditionNode) :
    node.withoutValues = .group [] ↔ node = .group [] := by
  cases node with
  | group items => cases items <;> simp [withoutValues, withoutValuesItems]
  | _ => simp [withoutValues]

theorem ConditionNode.renderItems_withoutValues_cons {connective : Connective}
    {node : ConditionNode} {rest : List (Connective × ConditionNode)} {first : Bool}
    (hnode : node.withoutValues.render dialect =
      resultWithoutValues Sql.withoutValues (node.render dialect))
    (hrest : ∀ first, renderItems dialect first (withoutValuesItems rest) =
      resultWithoutValues Sql.withoutValues (renderItems dialect first rest)) :
    renderItems dialect first (withoutValuesItems ((connective, node) :: rest)) =
      resultWithoutValues Sql.withoutValues
        (renderItems dialect first ((connective, node) :: rest)) := by
  by_cases hempty : node = .group []
  · subst hempty
    exact hrest first
  · have herased : node.withoutValues ≠ .group [] := fun h =>
      hempty (node.withoutValues_eq_empty_iff.mp h)
    rw [withoutValuesItems, renderItems_cons hempty, renderItems_cons herased]
    refine resultWithoutValues_bind hnode fun part =>
      resultWithoutValues_map (hrest false) fun more => ?_
    cases first <;> simp

namespace Query

theorem assemble_withoutValues (query : Query) (columns : List Sql) (target : String)
    (wheres having : Sql) :
    query.withoutValues.assemble dialect (columns.map Sql.withoutValues) target
        wheres.withoutValues having.withoutValues =
      (query.assemble dialect columns target wheres having).withoutValues := by
  obtain ⟨tables, projection, joins, _, groupBy, _, orderBy, limit, offset, distinct, into⟩ := query
  have hstar : (Projection.withoutValuesList projection).isEmpty = projection.isEmpty := by
    cases projection <;> rfl
  simp only [withoutValues, assemble, hstar, Sql.withoutValues_append, Sql.withoutValues_text,
    Sql.withoutValues_conditionClause]
  cases projection.isEmpty
  · rw [if_neg Bool.false_ne_true, if_neg Bool.false_ne_true, Sql.withoutValues_join]
    rfl
  · rfl

theorem render_withoutValues_of_clauses {query : Query}
    (hcolumns : Projection.renderList dialect (Projection.withoutValuesList query.columns) =
      resultWithoutValues (List.map Sql.withoutValues)
        (Projection.renderList dialect query.columns))
    (hwheres : ConditionNode.renderItems dialect true
        (ConditionNode.withoutValuesItems query.wheres) =
      resultWithoutValues Sql.withoutValues (ConditionNode.renderItems dialect true query.wheres))
    (hhaving : ConditionNode.renderItems dialect true
        (ConditionNode.withoutValuesItems query.having) =
      resultWithoutValues Sql.withoutValues (ConditionNode.renderItems dialect true query.having)) :
    query.withoutValues.render dialect =
      resultWithoutValues Sql.withoutValues (query.render dialect) := by
  rw [render_eq, render_eq]
  simp only [tables_withoutValues, columns_withoutValues, wheres_withoutValues,
    having_withoutValues, into_withoutValues]
  split
  · rfl
  · refine resultWithoutValues_bind hcolumns fun columns => ?_
    refine resultWithoutValues_bind (IntoTarget.renderOption_withoutValues dialect query.into)
      fun target => ?_
    refine resultWithoutValues_bind hwheres fun wheres => ?_
    exact resultWithoutValues_map hhaving fun having =>
      query.assemble_withoutValues dialect columns target wheres having

end Query

end

mutual

theorem Term.render_withoutValues (dialect : Dialect) : (term : Term) →
    term.withoutValues.render dialect =
      resultWithoutValues Sql.withoutValues (term.render dialect)
  | .column _ | .value _ | .operator _ => by
    simp only [Term.withoutValues, Term.render]
    rfl
  | .call call => by
    simp only [Term.withoutValues, Term.render]
    exact call.render_withoutPattern dialect
  | .group terms => by
    simp only [Term.withoutValues, Term.render]
    exact resultWithoutValues_map (Term.renderList_withoutValues dialect terms) fun parts => by simp
  | .subquery query => by
    simp only [Term.withoutValues, Term.render]
    exact resultWithoutValues_map (Query.render_withoutValues dialect query) fun inner => by simp

theorem Term.renderList_withoutValues (dialect : Dialect) : (terms : List Term) →
    Term.renderList dialect (Term.withoutValuesList terms) =
      resultWithoutValues (List.map Sql.withoutValues) (Term.renderList dialect terms)
  | [] => by
    simp only [Term.withoutValuesList, Term.renderList]
    rfl
  | term :: rest => by
    simp only [Term.withoutValuesList, Term.renderList]
    exact resultWithoutValues_bind (Term.render_withoutValues dialect term) fun sql =>
      resultWithoutValues_map (Term.renderList_withoutValues dialect rest) fun more => rfl

theorem Operand.render_withoutValues (dialect : Dialect) : (operand : Operand) →
    operand.withoutValues.render dialect =
      resultWithoutValues Sql.withoutValues (operand.render dialect)
  | .column _ => by
    simp only [Operand.withoutValues, Operand.render]
    rfl
  | .expression terms => by
    simp only [Operand.withoutValues, Operand.render]
    exact resultWithoutValues_map (Term.renderList_withoutValues dialect terms) fun parts => by simp

theorem Condition.render_withoutValues (dialect : Dialect) : (condition : Condition) →
    condition.withoutValues.render dialect =
      resultWithoutValues Sql.withoutValues (condition.render dialect)
  | ⟨operand, comparison, .subquery query⟩ =>
    Condition.render_withoutValues_of_sides dialect (Operand.render_withoutValues dialect operand)
      (Comparand.render_withoutValues_of_query dialect comparison fun _ h => by
        cases h
        exact Query.render_withoutValues dialect query)
  | ⟨operand, comparison, .nothing⟩ | ⟨operand, comparison, .value _⟩
  | ⟨operand, comparison, .column _⟩ | ⟨operand, comparison, .list _⟩
  | ⟨operand, comparison, .range _ _⟩ =>
    Condition.render_withoutValues_of_sides dialect (Operand.render_withoutValues dialect operand)
      (Comparand.render_withoutValues_of_query dialect comparison fun _ h => by cases h)

theorem ConditionNode.render_withoutValues (dialect : Dialect) : (node : ConditionNode) →
    node.withoutValues.render dialect =
      resultWithoutValues Sql.withoutValues (node.render dialect)
  | .test condition => by
    simp only [ConditionNode.withoutValues, ConditionNode.render]
    exact Condition.render_withoutValues dialect condition
  | .exists _ query => by
    simp only [ConditionNode.withoutValues, ConditionNode.render]
    exact resultWithoutValues_map (Query.render_withoutValues dialect query) fun inner => by simp
  | .group items => by
    simp only [ConditionNode.withoutValues, ConditionNode.render]
    exact resultWithoutValues_map (ConditionNode.renderItems_withoutValues dialect items true)
      fun inner => by simp

theorem ConditionNode.renderItems_withoutValues (dialect : Dialect) :
    (items : List (Connective × ConditionNode)) → (first : Bool) →
    ConditionNode.renderItems dialect first (ConditionNode.withoutValuesItems items) =
      resultWithoutValues Sql.withoutValues (ConditionNode.renderItems dialect first items)
  | [], _ => by
    simp only [ConditionNode.withoutValuesItems, ConditionNode.renderItems]
    rfl
  | (_, node) :: rest, _ =>
    ConditionNode.renderItems_withoutValues_cons dialect
      (ConditionNode.render_withoutValues dialect node)
      (ConditionNode.renderItems_withoutValues dialect rest)

theorem Projection.render_withoutValues (dialect : Dialect) : (column : Projection) →
    column.withoutValues.render dialect =
      resultWithoutValues Sql.withoutValues (column.render dialect)
  | ⟨terms, none⟩ | ⟨terms, some _⟩ => by
    simp only [Projection.withoutValues, Projection.render]
    exact resultWithoutValues_map (Term.renderList_withoutValues dialect terms) fun parts => by simp

theorem Projection.renderList_withoutValues (dialect : Dialect) : (columns : List Projection) →
    Projection.renderList dialect (Projection.withoutValuesList columns) =
      resultWithoutValues (List.map Sql.withoutValues) (Projection.renderList dialect columns)
  | [] => by
    simp only [Projection.withoutValuesList, Projection.renderList]
    rfl
  | column :: rest => by
    simp only [Projection.withoutValuesList, Projection.renderList]
    exact resultWithoutValues_bind (Projection.render_withoutValues dialect column) fun sql =>
      resultWithoutValues_map (Projection.renderList_withoutValues dialect rest) fun more => rfl

theorem Query.render_withoutValues (dialect : Dialect) : (query : Query) →
    query.withoutValues.render dialect =
      resultWithoutValues Sql.withoutValues (query.render dialect)
  | ⟨_, columns, _, wheres, _, having, _, _, _, _, _⟩ =>
    Query.render_withoutValues_of_clauses dialect
      (Projection.renderList_withoutValues dialect columns)
      (ConditionNode.renderItems_withoutValues dialect wheres true)
      (ConditionNode.renderItems_withoutValues dialect having true)

end

section

variable (dialect : Dialect)

theorem ConditionTree.render_withoutValues (items : ConditionTree) :
    ConditionTree.render dialect (ConditionNode.withoutValuesItems items) =
      resultWithoutValues Sql.withoutValues (ConditionTree.render dialect items) :=
  ConditionNode.renderItems_withoutValues dialect items true

theorem Written.render_withoutValues (written : Written) :
    written.withoutValues.render dialect =
      resultWithoutValues Sql.withoutValues (written.render dialect) := by
  cases written with
  | value v => rfl
  | expression terms =>
    exact resultWithoutValues_map (Term.renderList_withoutValues dialect terms) fun parts => by simp

namespace Insert

theorem findRagged_withoutValues (columns index : Nat) (rows : List (List Written)) :
    findRagged columns index (rows.map (List.map Written.withoutValues)) =
      findRagged columns index rows := by
  induction rows generalizing index with
  | nil => rfl
  | cons row rest ih => simp only [List.map_cons, findRagged, List.length_map, ih]

theorem problem?_withoutValues (insert : Insert) :
    insert.withoutValues.problem? = insert.problem? := by
  simp only [problem?, withoutValues, List.isEmpty_map, findRagged_withoutValues]

theorem withoutValues_of_problem? {insert : Insert} {cause : InvalidArgument}
    (h : insert.problem? = some cause) : cause.withoutValues = cause := by
  unfold problem? at h
  repeat' split at h
  all_goals cases h <;> rfl

theorem renderRow_withoutValues (row : List Written) :
    renderRow dialect (row.map Written.withoutValues) =
      resultWithoutValues Sql.withoutValues (renderRow dialect row) :=
  resultWithoutValues_map (mapM_withoutValues (Written.render_withoutValues dialect) row)
    fun values => by simp

theorem render_withoutValues (insert : Insert) :
    insert.withoutValues.render dialect =
      resultWithoutValues Sql.withoutValues (insert.render dialect) := by
  unfold render
  rw [insert.problem?_withoutValues]
  cases hproblem : insert.problem? with
  | some cause =>
    show Except.error (Error.invalid cause) = .error (.invalid cause.withoutValues)
    rw [withoutValues_of_problem? hproblem]
  | none =>
    exact resultWithoutValues_map (mapM_withoutValues (renderRow_withoutValues dialect) insert.rows)
      fun rows => by simp [withoutValues]

end Insert

namespace Update

theorem renderAssignment_withoutValues (assignment : String × Written) :
    renderAssignment dialect (assignment.1, assignment.2.withoutValues) =
      resultWithoutValues Sql.withoutValues (renderAssignment dialect assignment) :=
  resultWithoutValues_map (Written.render_withoutValues dialect assignment.2) fun written => by simp

theorem render_withoutValues (update : Update) :
    update.withoutValues.render dialect =
      resultWithoutValues Sql.withoutValues (update.render dialect) := by
  obtain ⟨⟨tables, _, _, wheres, _, _, _, _, _, _, _⟩, assignments⟩ := update
  cases tables with
  | nil => rfl
  | cons table rest =>
    cases assignments with
    | nil => rfl
    | cons assignment more =>
      refine resultWithoutValues_bind (mapM_withoutValues (renderAssignment_withoutValues dialect)
        (assignment :: more)) fun assignments => ?_
      refine resultWithoutValues_map (ConditionTree.render_withoutValues dialect wheres)
        fun wheres => ?_
      simp [withoutValues, Query.withoutValues]

end Update

namespace Delete

theorem targetText_withoutValues (names : List String) :
    targetText dialect names = resultWithoutValues id (targetText dialect names) := by
  unfold targetText
  split <;> rfl

theorem renderTargets_withoutValues (delete : Delete) (table : TableRef) :
    renderTargets dialect delete.withoutValues table =
      resultWithoutValues id (renderTargets dialect delete table) := by
  have htargets : delete.withoutValues.targets = delete.targets := rfl
  have hnames : delete.withoutValues.namesTargets = delete.namesTargets := by
    simp [namesTargets, withoutValues]
  unfold renderTargets
  rw [hnames, htargets]
  cases delete.namesTargets with
  | false => rfl
  | true => exact resultWithoutValues_map (targetText_withoutValues dialect _) fun _ => rfl

theorem render_withoutValues (delete : Delete) :
    delete.withoutValues.render dialect =
      resultWithoutValues Sql.withoutValues (delete.render dialect) := by
  have hquery : delete.withoutValues.query = delete.query.withoutValues := rfl
  cases htables : delete.query.tables with
  | nil =>
    simp only [render, hquery, Query.tables_withoutValues, htables]
    rfl
  | cons table rest =>
    have htablesErased : delete.withoutValues.query.tables = table :: rest := by
      rw [hquery, Query.tables_withoutValues, htables]
    rw [render_eq htables, render_eq htablesErased, htablesErased, htables, hquery,
      Query.joins_withoutValues, Query.wheres_withoutValues]
    refine resultWithoutValues_bind (renderTargets_withoutValues dialect delete table)
      fun targets => ?_
    exact resultWithoutValues_map (ConditionTree.render_withoutValues dialect delete.query.wheres)
      fun wheres => by simp

end Delete

theorem RowStatement.render_withoutValues (s : RowStatement) :
    s.withoutValues.render dialect =
      resultWithoutValues Sql.withoutValues (s.render dialect) := by
  cases s with
  | select q => exact q.render_withoutValues dialect
  | insert i => exact i.render_withoutValues dialect
  | update u => exact u.render_withoutValues dialect
  | delete d => exact d.render_withoutValues dialect

end

theorem RowStatement.compile_withoutValues (s : RowStatement) (dialect : Dialect) :
    (s.withoutValues.compile dialect).map Compiled.sql =
      resultWithoutValues id ((s.compile dialect).map Compiled.sql) := by
  rw [compile_eq_map_render, compile_eq_map_render, s.render_withoutValues dialect]
  cases s.render dialect with
  | error e => rfl
  | ok sql => exact congrArg Except.ok (sql.write_withoutValues dialect 1)

/-- Of two statements that are the same without their values, a dialect compiles both to the same
text or refuses both with errors that are the same without the values that they quote. -/
theorem RowStatement.sql_ignores_values {s t : RowStatement} (dialect : Dialect)
    (h : s.withoutValues = t.withoutValues) :
    (∃ first second, s.compile dialect = .ok first ∧ t.compile dialect = .ok second ∧
      first.sql = second.sql) ∨
    (∃ first second, s.compile dialect = .error first ∧ t.compile dialect = .error second ∧
      first.variant = second.variant ∧ first.withoutValues = second.withoutValues) := by
  have hs := s.compile_withoutValues dialect
  have ht := t.compile_withoutValues dialect
  rw [h, ht] at hs
  cases hcs : s.compile dialect with
  | error e =>
    cases hct : t.compile dialect with
    | error e' =>
      rw [hcs, hct] at hs
      have herror : e'.withoutValues = e.withoutValues := Except.error.inj hs
      refine .inr ⟨e, e', rfl, rfl, ?_, herror.symm⟩
      rw [← e.variant_withoutValues, ← e'.variant_withoutValues, herror]
    | ok compiled =>
      rw [hcs, hct] at hs
      cases hs
  | ok compiled =>
    cases hct : t.compile dialect with
    | error e =>
      rw [hcs, hct] at hs
      cases hs
    | ok other =>
      rw [hcs, hct] at hs
      exact .inl ⟨compiled, other, rfl, rfl, (Except.ok.inj hs).symm⟩

/-- A text that would end a literal and go on as SQL is bound like a number. -/
theorem RowStatement.sql_ignores_values_of_quote :
    let s (pattern : String) (low high written : Value) : RowStatement := .update
      ⟨{ tables := [⟨"t", none⟩]
         wheres := [(.and, .test ⟨.expression [.call ⟨.scalar (.format pattern), ["n"], false⟩],
           .between, .range low high⟩)] }, [("a", .value written)]⟩
    let first := s "%d" (.int 1) (.int 2) .null
    let second := s "'); --" (.string "' OR 1 = 1 --") (.bool true) (.bytes [0x27])
    first.withoutValues = second.withoutValues ∧
    ∃ one other, first.compile .postgres = .ok one ∧ second.compile .postgres = .ok other ∧
      one.sql = other.sql := by
  intro s first second
  have herased : first.withoutValues = second.withoutValues := rfl
  refine ⟨herased, ?_⟩
  obtain hok | ⟨e, _, he, _⟩ := sql_ignores_values .postgres herased
  · exact hok
  · cases he

end SqlDialects
