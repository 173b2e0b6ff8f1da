import SqlDialects.Proofs.Table.Portability
import SqlDialects.Proofs.Table.TableText

/-! The statements for a new table, read back. The columns and the keys of the table are lines of
the first statement, and what a dialect has no line or clause for is a statement of its own. -/

namespace SqlDialects

namespace TableLine

def column? : TableLine → Option WrittenColumn
  | column written => some written
  | _ => none

def uniqueKey? : TableLine → Option Key
  | uniqueKey key => some key
  | _ => none

def index? : TableLine → Option Key
  | index key => some key
  | _ => none

def foreignKey? : TableLine → Option ForeignKey
  | foreignKey key => some key
  | _ => none

end TableLine

/-- The comments in a definition, with the name of the column. -/
def WrittenColumn.comments (written : WrittenColumn) : List (String × String) :=
  (written.clauses.filterMap ColumnPart.comment?).map fun text => (written.name, text)

namespace CreateTable

/-- The descriptions of columns, with the names of the columns. -/
def descriptions (table : CreateTable) : List (String × String) :=
  table.columns.flatMap fun column =>
    column.options.description.toList.map fun text => (column.name, text)

variable (dialect : Dialect) (table : CreateTable)

/-- The lines of the table behind its columns. -/
def keyLines : List TableLine :=
  (if table.keyIsInline dialect then [] else table.primaryKey.toList.map .primaryKey) ++
    table.uniqueKeys.map .uniqueKey ++
    (if dialect = .mysql then table.indexes.map .index else []) ++
    table.foreignKeys.map .foreignKey

/-- The indexes that are statements of their own. -/
def indexSentences : List TableSentence :=
  if dialect = .mysql then [] else table.indexes.map (.createIndex false table.name)

/-- The comments that are statements of their own. -/
def commentSentences : List TableSentence :=
  if dialect = .postgres ∨ dialect = .sqlServer then
    table.descriptions.map fun (column, text) => .comment (table.name ++ "." ++ column) text
  else []

end CreateTable

section

variable {dialect : Dialect}

theorem forall₂_map_map {R : α → β → Prop} {f : γ → α} {g : γ → β} (h : ∀ c, R (f c) (g c))
    (items : List γ) : List.Forall₂ R (items.map f) (items.map g) := by
  rw [List.forall₂_map_left_iff, List.forall₂_map_right_iff]
  exact List.forall₂_same.mpr fun c _ => h c

theorem CreateTable.writtenAs_keyItems (dialect : Dialect) (table : CreateTable) :
    List.Forall₂ (TableItem.WrittenAs dialect) (table.keyItems dialect)
      (table.keyLines dialect) := by
  have hprimary : List.Forall₂ (TableItem.WrittenAs dialect)
      (if table.keyIsInline dialect then [] else table.primaryKey.toList.map .primaryKey)
      (if table.keyIsInline dialect then [] else table.primaryKey.toList.map .primaryKey) := by
    split
    · exact .nil
    · exact forall₂_map_map .primaryKey _
  have hindexes : List.Forall₂ (TableItem.WrittenAs dialect)
      (if dialect = .mysql then table.indexes.map .index else [])
      (if dialect = .mysql then table.indexes.map .index else []) := by
    split
    · exact forall₂_map_map .index _
    · exact .nil
  exact List.rel_append (List.rel_append (List.rel_append hprimary
    (forall₂_map_map .uniqueKey _)) hindexes) (forall₂_map_map .foreignKey _)

/-- The definitions of columns are written as lines that declare the columns. -/
theorem Column.exists_written_of_mapM {columns : List Column} {definitions : List ColumnDefinition}
    (h : columns.mapM (Column.definition dialect) = .ok definitions) :
    ∃ written, List.Forall₂ (WrittenColumn.Declares dialect) written columns ∧
      List.Forall₂ (TableItem.WrittenAs dialect) (definitions.map .column)
        (written.map .column) := by
  have hdefinitions := forall₂_of_mapM_eq_ok h
  clear h
  induction hdefinitions with
  | nil => exact ⟨[], .nil, .nil⟩
  | cons hcolumn _ ih =>
    obtain ⟨written, hdeclares, hwritten⟩ := ih
    obtain ⟨first, hdefinition, hfirst⟩ := Column.exists_written dialect _ _ hcolumn
    exact ⟨first :: written, .cons hfirst hdeclares, .cons (.column hdefinition) hwritten⟩

end

namespace CreateTable

variable {dialect : Dialect} {table : CreateTable}

theorem ofText?_indexes (dialect : Dialect) (table : CreateTable) :
    (if dialect = .mysql then []
      else table.indexes.map (Definition.createIndex false table.name)).map
        (fun definition => TableSentence.ofText? dialect (definition.sql dialect)) =
      (table.indexSentences dialect).map some := by
  unfold indexSentences
  split
  · rfl
  · rw [List.map_map, List.map_map]
    refine List.map_congr_left fun key _ => ?_
    simp only [Function.comp_apply]
    exact TableSentence.ofText?_createIndex false table.name key

theorem ofText?_comments (dialect : Dialect) (table : CreateTable) :
    (table.columns.flatMap (Column.comments dialect table.name)).map
        (fun definition => TableSentence.ofText? dialect (definition.sql dialect)) =
      (table.commentSentences dialect).map some := by
  have hcolumn (column : Column) : (column.comments dialect table.name).map
      (fun definition => TableSentence.ofText? dialect (definition.sql dialect)) =
      if dialect = .postgres ∨ dialect = .sqlServer then
        column.options.description.toList.map fun text =>
          some (.comment (table.name ++ "." ++ column.name) text)
      else [] := by
    unfold Column.comments
    cases column.options.description with
    | none => cases dialect <;> rfl
    | some text =>
      cases dialect with
      | mysql | sqlite => rfl
      | postgres => exact congrArg (fun read => [read]) (TableSentence.ofText?_comment ..)
      | sqlServer => exact congrArg (fun read => [read]) (TableSentence.ofText?_property ..)
  rw [List.map_flatMap, List.flatMap_congr fun column _ => hcolumn column]
  unfold commentSentences descriptions
  split
  · simp only [List.map_flatMap, List.map_map, Function.comp_def]
  · simp

/-- A table that compiles has a line. -/
theorem items_ne_nil (table : CreateTable) {definitions : List Definition}
    {columns : List ColumnDefinition} (hplan : table.plan dialect = .ok definitions)
    (hcolumns : table.columns.mapM (Column.definition dialect) = .ok columns) :
    columns.map TableItem.column ++ table.keyItems dialect ≠ [] := by
  intro hnil
  obtain ⟨rfl, -⟩ := List.append_eq_nil_iff.mp hnil |>.imp_left List.map_eq_nil_iff.mp
  have hlength := (forall₂_of_mapM_eq_ok hcolumns).length_eq
  exact (plan_isOk_iff.mp ⟨_, hplan⟩).1.columns_ne (List.length_eq_zero_iff.mp hlength)

/-- Every statement for a new table is read back. -/
theorem exists_sentences {statements : List Compiled}
    (h : table.compile dialect = .ok statements) :
    ∃ written options, List.Forall₂ (WrittenColumn.Declares dialect) written table.columns ∧
      statements.map (fun statement => TableSentence.ofText? dialect statement.sql) =
        (.createTable table.name (written.map .column ++ table.keyLines dialect) options ::
          (table.indexSentences dialect ++ table.commentSentences dialect)).map some := by
  obtain ⟨definitions, hplan, rfl⟩ := map_eq_ok_iff.mp h
  obtain ⟨columns, hcolumns, rfl⟩ := exists_of_plan_eq_ok hplan
  obtain ⟨written, hdeclares, hwritten⟩ := Column.exists_written_of_mapM hcolumns
  obtain ⟨options, hread⟩ := TableSentence.ofText?_createTable table.name
    (table.items_ne_nil hplan hcolumns)
    (if dialect = .mysql then table.engine else none)
    (List.rel_append hwritten (table.writtenAs_keyItems dialect))
  refine ⟨written, options, hdeclares, ?_⟩
  rw [List.map_map]
  show (table.definitions dialect columns).map
    (fun definition => TableSentence.ofText? dialect (definition.sql dialect)) = _
  rw [definitions, List.cons_append, List.map_cons, List.map_append, ofText?_indexes,
    ofText?_comments, hread, List.map_cons, List.map_append]

/-- The comments in the definitions of columns are the descriptions where comments are clauses. -/
theorem flatMap_comments {written : List WrittenColumn} {columns : List Column}
    (h : List.Forall₂ (WrittenColumn.Declares dialect) written columns) :
    written.flatMap WrittenColumn.comments =
      if dialect = .mysql then columns.flatMap fun column =>
        column.options.description.toList.map fun text => (column.name, text)
      else [] := by
  induction h with
  | nil => simp
  | @cons first column _ _ hfirst _ ih =>
    rw [List.flatMap_cons, ih, WrittenColumn.comments, hfirst.clauses_eq, hfirst.name_eq,
      Column.comments_clauses]
    split <;> rfl

theorem filterMap_lines (written : List WrittenColumn) (dialect : Dialect) (table : CreateTable) :
    let lines := written.map .column ++ table.keyLines dialect
    lines.filterMap TableLine.column? = written ∧
      lines.filterMap TableLine.uniqueKey? = table.uniqueKeys ∧
      lines.filterMap TableLine.index? = (if dialect = .mysql then table.indexes else []) ∧
      lines.filterMap TableLine.foreignKey? = table.foreignKeys := by
  unfold keyLines
  refine ⟨?_, ?_, ?_, ?_⟩ <;> split <;> split <;>
    simp [TableLine.column?, TableLine.uniqueKey?, TableLine.index?, TableLine.foreignKey?,
      Function.comp_def]

/-- What is declared about a new table is in its statements, once and in order. The first statement
has a line for each column, each unique key and each foreign key. An index is a line of it in MySQL
and else a statement behind it. The description of a column is a clause of its definition in MySQL,
a statement behind those for indexes in PostgreSQL and SQL Server, and nothing in SQLite. -/
theorem statements_read_back {statements : List Compiled}
    (h : table.compile dialect = .ok statements) :
    ∃ lines options,
      statements.map (fun statement => TableSentence.ofText? dialect statement.sql) =
        (.createTable table.name lines options ::
          ((if dialect = .mysql then [] else table.indexes.map (.createIndex false table.name)) ++
            (if dialect = .postgres ∨ dialect = .sqlServer then
              table.descriptions.map fun (column, text) =>
                .comment (table.name ++ "." ++ column) text
            else []))).map some ∧
      List.Forall₂ (WrittenColumn.Declares dialect) (lines.filterMap TableLine.column?)
        table.columns ∧
      lines.filterMap TableLine.uniqueKey? = table.uniqueKeys ∧
      lines.filterMap TableLine.index? = (if dialect = .mysql then table.indexes else []) ∧
      lines.filterMap TableLine.foreignKey? = table.foreignKeys ∧
      (lines.filterMap TableLine.column?).flatMap WrittenColumn.comments =
        (if dialect = .mysql then table.descriptions else []) := by
  obtain ⟨written, options, hdeclares, hread⟩ := exists_sentences h
  obtain ⟨hcolumns, huniques, hindexes, hforeigns⟩ := filterMap_lines written dialect table
  refine ⟨_, options, hread, ?_, huniques, hindexes, hforeigns, ?_⟩
  · rwa [hcolumns]
  · rw [hcolumns]
    exact flatMap_comments hdeclares

/-- An index and a description are statements of their own in PostgreSQL. -/
theorem statements_read_back_of_postgres :
    let table : CreateTable :=
      { name := "t"
        columns := [⟨"a", .integer, { description := some "it's" }⟩]
        uniqueKeys := [⟨"u", ["a"]⟩]
        indexes := [⟨"i", ["a"]⟩] }
    ∃ statements lines options, table.compile .postgres = .ok statements ∧
      statements.map Compiled.sql = [
        "CREATE TABLE t (\n    a INTEGER,\n    CONSTRAINT u UNIQUE (a)\n)",
        "CREATE INDEX i ON t (a)",
        "COMMENT ON COLUMN t.a IS 'it''s'"] ∧
      statements.map (fun statement => TableSentence.ofText? .postgres statement.sql) =
        [some (.createTable "t" lines options), some (.createIndex false "t" ⟨"i", ["a"]⟩),
          some (.comment "t.a" "it's")] ∧
      lines.filterMap TableLine.uniqueKey? = [⟨"u", ["a"]⟩] := by
  intro table
  obtain ⟨statements, hcompile, hsql⟩ : ∃ statements, table.compile .postgres = .ok statements ∧
      statements.map Compiled.sql = [
        "CREATE TABLE t (\n    a INTEGER,\n    CONSTRAINT u UNIQUE (a)\n)",
        "CREATE INDEX i ON t (a)",
        "COMMENT ON COLUMN t.a IS 'it''s'"] := ⟨_, rfl, by decide⟩
  obtain ⟨lines, options, hread, -, huniques, -, -, -⟩ := statements_read_back hcompile
  refine ⟨statements, lines, options, hcompile, hsql, hread.trans ?_, huniques⟩
  rfl

end CreateTable

end SqlDialects
