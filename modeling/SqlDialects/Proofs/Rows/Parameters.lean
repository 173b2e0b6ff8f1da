import SqlDialects.Proofs.Rows.Context
import SqlDialects.Proofs.Sql.Template

/-! The parameters of a compiled statement, and their places in its text. -/

namespace SqlDialects

/-- What is compiled from SQL that writes these values and this text in place. -/
theorem Writes.compile {values : List Value} {text : (Value → String) → String} {sql : Sql}
    (h : Writes values text sql) (dialect : Dialect) :
    (sql.compile dialect).params = values ∧
    ∃ template : Template, template.gaps = values.length ∧
      (sql.compile dialect).sql = template.fill (dialect.placeholders 1 values.length) ∧
      ∀ ofValue, template.fill (values.map ofValue) = text ofValue := by
  obtain ⟨hvalues, htext⟩ := h
  refine ⟨hvalues, sql.template, ?_, ?_, fun ofValue => ?_⟩
  · rw [Sql.gaps_template, hvalues]
  · rw [← hvalues, Sql.fill_placeholders]
    rfl
  · rw [← hvalues, Sql.fill_values]
    exact htext ofValue

/-- A statement that compiles has rendered SQL, in which every value is in its place. -/
theorem RowStatement.writes_of_compile {s : RowStatement} {dialect : Dialect}
    {compiled : Compiled} (h : s.compile dialect = .ok compiled) :
    ∃ sql : Sql, sql.compile dialect = compiled ∧
      Writes (boundValues s.walk) (fun ofValue => s.inPlace dialect ofValue) sql := by
  rw [s.compile_eq_map_render dialect] at h
  cases hsql : s.render dialect with
  | error e =>
    rw [hsql] at h
    cases h
  | ok sql =>
    rw [hsql] at h
    exact ⟨sql, Except.ok.inj h, (s.renders dialect).good_of_eq_ok hsql⟩

/-- The parameters of a statement are the values on its walk, whichever the dialect. Its text has
one gap for each of them: with the placeholders by number in the gaps it is what is compiled, and
with the parameters themselves it is the statement with its values in place. With the parameters
threaded through, the same text is written, and at its end the same parameters are bound. -/
theorem RowStatement.parameters_in_place {s : RowStatement} {dialect : Dialect}
    {compiled : Compiled} (h : s.compile dialect = .ok compiled) :
    compiled.params = boundValues s.walk ∧
    (∃ template : Template, template.gaps = compiled.params.length ∧
      compiled.sql = template.fill (dialect.placeholders 1 compiled.params.length) ∧
      ∀ ofValue : Value → String,
        template.fill (compiled.params.map ofValue) = s.inPlace dialect ofValue) ∧
    (s.thread dialect).compile = .ok compiled ∧
    ∀ (other : Dialect) (counterpart : Compiled),
      s.compile other = .ok counterpart → counterpart.params = compiled.params := by
  have hthread := (s.compile_thread dialect).trans h
  obtain ⟨sql, rfl, hsql⟩ := writes_of_compile h
  obtain ⟨hparams, htemplate⟩ := hsql.compile dialect
  refine ⟨hparams, ?_, hthread, fun other counterpart hother => ?_⟩
  · rwa [hparams]
  · obtain ⟨sql', rfl, hsql'⟩ := writes_of_compile hother
    rw [(hsql'.compile other).1, hparams]

/-- A formatted column, a subquery and an empty list: the values are bound in the order of the
statement, although one dialect writes the pattern before the column. -/
theorem RowStatement.parameters_in_place_of_format :
    let inner : Query :=
      { tables := [⟨"u", none⟩]
        columns := [⟨[.column "id"], none⟩]
        wheres := [(.and, .test ⟨.column "a", .between, .range (.int 1) (.int 2)⟩)] }
    let s : RowStatement := .select
      { tables := [⟨"t", none⟩]
        columns := [⟨[.call ⟨.scalar (.format "%d"), ["n"], false⟩], none⟩]
        wheres := [(.and, .test ⟨.column "id", .isIn, .subquery inner⟩),
          (.or, .group [(.and, .test ⟨.expression [.value (.int 9)], .isIn, .list []⟩),
            (.and, .test ⟨.column "b", .eq, .value (.int 3)⟩)])] }
    ∃ compiled, s.compile .sqlite = .ok compiled ∧
      compiled.params = [.string "%d", .int 1, .int 2, .int 3] ∧
      ∀ (other : Dialect) (counterpart : Compiled),
        s.compile other = .ok counterpart → counterpart.params = compiled.params := by
  intro inner s
  have h : ∃ compiled, s.compile .sqlite = .ok compiled ∧
      compiled.params = [.string "%d", .int 1, .int 2, .int 3] := ⟨_, rfl, rfl⟩
  obtain ⟨compiled, hok, hparams⟩ := h
  exact ⟨compiled, hok, hparams, (parameters_in_place hok).2.2.2⟩

end SqlDialects
