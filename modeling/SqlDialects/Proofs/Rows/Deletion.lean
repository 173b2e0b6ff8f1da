import SqlDialects.Proofs.Rows.Changes
import SqlDialects.Query.Clause

/-! A query that is built clause by clause and then becomes a deletion. The deletion has the tables,
joins and conditions of the query in the same text as the selection has them, with the same
parameters. All other clauses play no part in it. -/

namespace SqlDialects

/-- Whether a clause can be added to a query before it is known what the query becomes. The columns
of the result are not named until it selects. -/
def Clause.comesEarly : Clause → Bool
  | .columns _ => false
  | _ => true

namespace Query

theorem columns_addAll {query : Query} {clauses : List Clause}
    (h : ∀ clause ∈ clauses, clause.comesEarly) :
    (query.addAll clauses).columns = query.columns := by
  induction clauses generalizing query with
  | nil => rfl
  | cons clause rest ih =>
    have hclause : (query.add clause).columns = query.columns := by
      have hearly := h clause List.mem_cons_self
      cases clause with
      | columns columns => cases hearly
      | _ => rfl
    rw [addAll_cons, ih fun c hc => h c (List.mem_cons_of_mem _ hc), hclause]

/-- The tables, joins and conditions of a query, without its other clauses. -/
def rowsOnly (query : Query) : Query :=
  { tables := query.tables, joins := query.joins, wheres := query.wheres }

/-- The text of the tables, joins and conditions, with placeholders numbered from one. -/
def rowsText (dialect : Dialect) (query : Query) (wheres : Sql) : String :=
  "FROM " ++ TableRef.renderList dialect query.tables ++ Join.renderList dialect query.joins ++
    (conditionClause " WHERE " wheres).write dialect 1

end Query

/-- A query without columns that compiles as a selection: what stands before the text of its rows,
and what after it. -/
theorem Query.compile_eq_ok {dialect : Dialect} {query : Query} {selected : Compiled}
    (hcolumns : query.columns = []) (h : query.compile dialect = .ok selected) :
    ∃ wheres having, ConditionTree.render dialect query.wheres = .ok wheres ∧
      ConditionTree.render dialect query.having = .ok having ∧
      selected.sql = query.opening dialect ++ "*" ++
        query.into.elim "" (IntoTarget.text dialect) ++ " " ++ query.rowsText dialect wheres ++
        (query.grouping dialect ++
          (conditionClause " HAVING " having).write dialect (1 + wheres.values.length) ++
          query.closing dialect) ∧
      selected.params = wheres.values ++ having.values := by
  obtain ⟨sql, hsql, hselected⟩ := bind_eq_ok_iff.mp h
  cases hselected
  rw [render_eq] at hsql
  split at hsql
  · cases hsql
  obtain ⟨columns, _, hsql⟩ := bind_eq_ok_iff.mp hsql
  obtain ⟨target, htarget, hsql⟩ := bind_eq_ok_iff.mp hsql
  obtain ⟨wheres, hwheres, hsql⟩ := bind_eq_ok_iff.mp hsql
  obtain ⟨having, hhaving, hsql⟩ := bind_eq_ok_iff.mp hsql
  cases hsql
  have htext := (IntoTarget.renderOption_meets dialect query.into).good_of_eq_ok htarget
  have hfrom : " FROM " = " " ++ "FROM " := rfl
  refine ⟨wheres, having, hwheres, hhaving, ?_, ?_⟩
  · simp only [Sql.compile, assemble, hcolumns, List.isEmpty_nil, ↓reduceIte, Sql.write_append,
      Sql.write_text, Sql.values_append, Sql.values_text, conditionClause_values, List.nil_append,
      List.length_nil, Nat.add_zero, List.append_nil, route, rowsText, htext, hfrom,
      String.append_assoc]
  · simp only [Sql.compile, assemble, hcolumns, List.isEmpty_nil, ↓reduceIte, Sql.values_append,
      Sql.values_text, conditionClause_values, List.nil_append, List.append_nil]

/-- A deletion that compiles: the text of its rows, after the tables that lose rows where they are
named. -/
theorem Delete.compile_eq_ok {dialect : Dialect} {delete : Delete} {deleted : Compiled}
    (h : delete.compile dialect = .ok deleted) :
    ∃ wheres, ConditionTree.render dialect delete.query.wheres = .ok wheres ∧
      deleted.sql = "DELETE " ++ delete.targetsInPlace dialect ++
        delete.query.rowsText dialect wheres ∧
      deleted.params = wheres.values := by
  obtain ⟨sql, hsql, hdeleted⟩ := bind_eq_ok_iff.mp h
  cases hdeleted
  cases htables : delete.query.tables with
  | nil =>
    simp only [render, htables] at hsql
    cases hsql
  | cons table rest =>
    rw [render_eq htables] at hsql
    obtain ⟨targets, htargets, hsql⟩ := bind_eq_ok_iff.mp hsql
    obtain ⟨wheres, hwheres, hsql⟩ := bind_eq_ok_iff.mp hsql
    cases hsql
    have htext := (renderTargets_meets htables).good_of_eq_ok htargets
    refine ⟨wheres, hwheres, ?_, ?_⟩
    · simp only [Sql.compile, Sql.write_append, Sql.write_text, Sql.values_text, List.length_nil,
        Nat.add_zero, Query.rowsText, htext, String.append_assoc]
    · simp only [Sql.compile, Sql.values_append, Sql.values_text, conditionClause_values,
        List.nil_append]

/-- A query that compiles as a selection and as a deletion has its tables, joins and conditions in
the same text in both. The parameters of the deletion are those of the conditions, which are the
first ones of the selection, and the others of the selection are those of `HAVING`. The clauses that
group, order or limit the rows, and the others, play no part in the deletion: it compiles as it does
without them. -/
theorem Query.deletes_rows_of_selection {dialect : Dialect} {table : TableRef}
    {clauses : List Clause} (hclauses : ∀ clause ∈ clauses, clause.comesEarly)
    {selected deleted : Compiled}
    (hselect : ((ofTable table).addAll clauses).compile dialect = .ok selected)
    (hdelete : (⟨(ofTable table).addAll clauses, []⟩ : Delete).compile dialect = .ok deleted) :
    let query := (ofTable table).addAll clauses
    (∃ wheres having, ConditionTree.render dialect query.wheres = .ok wheres ∧
      ConditionTree.render dialect query.having = .ok having ∧
      selected.sql = query.opening dialect ++ "*" ++
        query.into.elim "" (IntoTarget.text dialect) ++ " " ++ query.rowsText dialect wheres ++
        (query.grouping dialect ++
          (conditionClause " HAVING " having).write dialect (1 + wheres.values.length) ++
          query.closing dialect) ∧
      deleted.sql = "DELETE " ++ Delete.targetsInPlace dialect ⟨query, []⟩ ++
        query.rowsText dialect wheres ∧
      deleted.params = wheres.values ∧ selected.params = deleted.params ++ having.values) ∧
    (⟨query.rowsOnly, []⟩ : Delete).compile dialect = .ok deleted := by
  intro query
  have hcolumns : query.columns = [] := columns_addAll hclauses
  obtain ⟨wheres, having, hwheres, hhaving, hselected, hparams⟩ := compile_eq_ok hcolumns hselect
  obtain ⟨wheres', hwheres', hdeleted, hdeletedParams⟩ := Delete.compile_eq_ok hdelete
  cases hwheres.symm.trans hwheres'
  refine ⟨⟨wheres, having, hwheres, hhaving, hselected, hdeleted, hdeletedParams, ?_⟩, hdelete⟩
  rw [hparams, hdeletedParams]

/-- A joined query with a filter and all clauses that a deletion leaves out. -/
theorem Query.deletes_rows_of_selection_of_join :
    let test (column : String) (value : Value) : ConditionNode :=
      .test ⟨.column column, .eq, .value value⟩
    let clauses : List Clause := [.join ⟨.inner, ⟨"u", none⟩, [(.and, .columns "t.id" .eq "u.id")]⟩,
      .filter .and (test "a" (.int 1)), .groupBy ["b"], .having .and (test "b" (.int 2)), .offset 7]
    ∃ selected deleted,
      ((ofTable ⟨"t", none⟩).addAll clauses).compile .sqlServer = .ok selected ∧
      (⟨(ofTable ⟨"t", none⟩).addAll clauses, []⟩ : Delete).compile .sqlServer = .ok deleted ∧
      selected.params = [.int 1, .int 2] ∧ deleted.params = [.int 1] ∧
      (⟨((ofTable ⟨"t", none⟩).addAll clauses).rowsOnly, []⟩ : Delete).compile .sqlServer =
        .ok deleted := by
  intro test clauses
  have hclauses : ∀ clause ∈ clauses, clause.comesEarly := by simp [clauses, Clause.comesEarly]
  obtain ⟨selected, hselect, hselected⟩ : ∃ selected,
      ((ofTable ⟨"t", none⟩).addAll clauses).compile .sqlServer = .ok selected ∧
      selected.params = [.int 1, .int 2] := ⟨_, rfl, rfl⟩
  obtain ⟨deleted, hdelete, hdeleted⟩ : ∃ deleted,
      (⟨(ofTable ⟨"t", none⟩).addAll clauses, []⟩ : Delete).compile .sqlServer = .ok deleted ∧
      deleted.params = [.int 1] := ⟨_, rfl, rfl⟩
  exact ⟨selected, deleted, hselect, hdelete, hselected, hdeleted,
    (deletes_rows_of_selection hclauses hselect hdelete).2⟩

/-- A query for five rows of some groups deletes all rows. -/
theorem Query.deletion_leaves_out_limits :
    let clauses : List Clause := [.groupBy ["b"],
      .having .and (.test ⟨.column "b", .eq, .value (.int 2)⟩), .limit 5, .offset 7]
    let query := (ofTable ⟨"t", none⟩).addAll clauses
    query.compile .mysql =
      .ok ⟨"SELECT * FROM t GROUP BY b HAVING b = ? LIMIT 5 OFFSET 7", [.int 2]⟩ ∧
    (⟨query, []⟩ : Delete).compile .mysql = .ok ⟨"DELETE FROM t", []⟩ := by
  refine ⟨?_, ?_⟩ <;> rfl

end SqlDialects
