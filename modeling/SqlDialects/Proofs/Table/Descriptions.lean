import SqlDialects.Proofs.Table.Sentence
import SqlDialects.Table.Alter

/-! The descriptions of columns in the statements that change a table. A description is a comment in
the definition of its column or a statement of its own, and it is read off the text that is sent. -/

namespace SqlDialects

structure ColumnComment where
  /-- The path of the table and the column. -/
  target : String
  text : String
deriving DecidableEq, Repr

def ColumnDefinition.comments (table : String) (definition : ColumnDefinition) :
    List ColumnComment :=
  definition.comment.toList.map fun text => ⟨table ++ "." ++ definition.name, text⟩

/-- The comments in a line of a table. -/
def TableItem.comments (table : String) : TableItem → List ColumnComment
  | column definition => definition.comments table
  | _ => []

def AlterAction.comments (table : String) : AlterAction → List ColumnComment
  | addColumn definition => definition.comments table
  | addColumnWithKey definition _ => definition.comments table
  | addItem item => item.comments table
  | modifyColumn definition => definition.comments table
  | modifyWithKey definition _ => definition.comments table
  | _ => []

/-- The comments that a statement makes. -/
def Definition.comments : Definition → List ColumnComment
  | createTable name items _ => items.flatMap (TableItem.comments name)
  | comment table column text => [⟨table ++ "." ++ column, text⟩]
  | alterTable table actions => actions.flatMap (AlterAction.comments table)
  | _ => []

def TableLine.comments (table : String) : TableLine → List ColumnComment
  | column written => written.comments.map fun (name, text) => ⟨table ++ "." ++ name, text⟩
  | _ => []

def WrittenAction.comments (table : String) : WrittenAction → List ColumnComment
  | addLine line => line.comments table
  | modifyColumn column => (TableLine.column column).comments table
  | _ => []

/-- The comments that a statement makes, as they are read off its text. -/
def SchemaSentence.comments : SchemaSentence → List ColumnComment
  | ofTable (.createTable name lines _) => lines.flatMap (TableLine.comments name)
  | ofTable (.comment target text) => [⟨target, text⟩]
  | alterTable table actions => actions.flatMap (WrittenAction.comments table)
  | _ => []

section

variable {dialect : Dialect} (table : String)

theorem ColumnDefinition.WrittenAs.comments_table_eq {definition : ColumnDefinition}
    {written : WrittenColumn} (h : definition.WrittenAs dialect written) :
    (TableLine.column written).comments table = definition.comments table := by
  rw [TableLine.comments, WrittenColumn.comments, h.comments_eq, h.name_eq, List.map_map]
  rfl

theorem TableItem.WrittenAs.comments_eq {item : TableItem} {line : TableLine}
    (h : item.WrittenAs dialect line) : line.comments table = item.comments table := by
  cases h with
  | column h => exact h.comments_table_eq table
  | _ => rfl

theorem AlterAction.WrittenAs.comments_eq {types : ColumnTypes} {action : AlterAction}
    {written : List WrittenAction} (h : action.WrittenAs dialect types written) :
    written.flatMap (WrittenAction.comments table) = action.comments table := by
  have hone (action : WrittenAction) : [action].flatMap (WrittenAction.comments table) =
      action.comments table := List.flatMap_singleton _ _
  cases h with
  | addColumn h => exact (hone _).trans (h.comments_table_eq table)
  | addColumnWithKey key h | modifyWithKey key h =>
    exact (List.append_nil _).trans (h.comments_table_eq table)
  | addKey h => exact (hone _).trans (h.comments_eq table)
  | modifyColumn _ h => exact (hone _).trans (h.comments_table_eq table)
  | _ => rfl

/-- A statement is read as making the comments that it makes. -/
theorem Definition.WrittenAs.comments_eq {types : ColumnTypes} {definition : Definition}
    {sentence : SchemaSentence} (h : definition.WrittenAs dialect types sentence) :
    sentence.comments = definition.comments := by
  cases h with
  | @createTable name items engine lines options hitems h =>
    exact flatMap_eq_of_forall₂ (fun _ _ h => h.comments_eq name) hitems
  | alterTable table _ h =>
    exact flatMap_flatten_of_forall₂ (fun _ _ h => h.comments_eq table) h
  | _ => rfl

end

namespace Column

/-- The comment that the description of a column asks for. -/
def described (table : String) (column : Column) : List ColumnComment :=
  column.options.description.toList.map fun text => ⟨table ++ "." ++ column.name, text⟩

/-- The comment in the definition of a column. -/
def describedInline (dialect : Dialect) (table : String) (column : Column) : List ColumnComment :=
  if dialect = .mysql then column.described table else []

end Column

namespace AlterOperation

/-- The comment that the description of the column asks for, if the operation defines a column. -/
def described (table : String) (operation : AlterOperation) : List ColumnComment :=
  operation.column?.toList.flatMap (Column.described table)

/-- Whether the operation makes a column that exists auto-incrementing. -/
def makesCounter : AlterOperation → Bool
  | autoincrement _ _ => true
  | _ => false

/-- The comment that the operation makes: the description of its column, unless PostgreSQL makes
the column auto-incrementing. That leaves the description out. -/
def comments (dialect : Dialect) (table : String) (operation : AlterOperation) :
    List ColumnComment :=
  if dialect = .postgres ∧ operation.makesCounter then [] else operation.described table

end AlterOperation

section

variable {dialect : Dialect} (table : String)

theorem Column.comments_defined (column : Column) (type : String) :
    (column.defined dialect type).comments table = column.describedInline dialect table := by
  unfold ColumnDefinition.comments defined describedInline described
  dsimp only
  by_cases h : dialect = .mysql
  · rw [if_pos h, if_pos h]
  · rw [if_neg h, if_neg h]
    rfl

theorem Column.yields_comments (column : Column) :
    Yields (fun definition => definition.comments table = column.describedInline dialect table)
      (column.definition dialect) := by
  rw [definition_eq]
  exact .after fun _ => .after fun type => .ok (column.comments_defined table type)

/-- The statements for the description of a column. -/
theorem Column.flatMap_comments_comments (dialect : Dialect) (column : Column) :
    (column.comments dialect table).flatMap Definition.comments =
      if dialect = .postgres ∨ dialect = .sqlServer then column.described table else [] := by
  unfold Column.comments described
  cases column.options.description <;> cases dialect <;> rfl

/-- Outside of SQLite, the description of a column is in its definition or has a statement behind
it, and not both. -/
theorem Column.reads_description (hdialect : dialect ≠ .sqlite) (column : Column)
    {definitions : List Definition}
    (h : Reads Definition.comments (column.describedInline dialect table) definitions) :
    Reads Definition.comments (column.described table)
      (definitions ++ column.comments dialect table) := by
  unfold Reads at h ⊢
  rw [List.flatMap_append, h, column.flatMap_comments_comments table]
  cases dialect with
  | sqlite => exact absurd rfl hdialect
  | mysql => exact List.append_nil _
  | postgres | sqlServer => rfl

/-- A change by one action. -/
theorem Definition.reads_comments_one (action : AlterAction) {comments : List ColumnComment}
    (h : action.comments table = comments) :
    Reads Definition.comments comments [alterTable table [action]] :=
  calc [alterTable table [action]].flatMap Definition.comments
      = [action].flatMap (AlterAction.comments table) := List.flatMap_singleton _ _
    _ = action.comments table := List.flatMap_singleton _ _
    _ = comments := h

namespace AlterOperation

theorem comments_addAutoincrementPlan (column : Column) (key : String) :
    Yields (Reads Definition.comments (column.describedInline dialect table))
      (addAutoincrementPlan dialect table column key) := by
  refine (column.yields_comments table).bind fun definition h => ?_
  split
  · exact .error
  · exact .ok (Definition.reads_comments_one table (.addColumnWithKey definition _) h)

theorem comments_modifyPlan (column : Column) :
    Yields (Reads Definition.comments (column.describedInline dialect table))
      (modifyPlan dialect table column) := by
  refine (yields_modifyPlan table column).imp ?_
  rintro _ (⟨rfl, definition, hdefinition, rfl⟩ | ⟨rfl, type, -, rfl⟩ | ⟨rfl, type, -, rfl⟩)
  · exact Definition.reads_comments_one table (.modifyColumn definition)
      (column.yields_comments table definition hdefinition)
  · cases column.options.default <;> rfl
  · cases column.options.default <;> rfl

theorem comments_autoincrementPlan (column : Column) (key : String) :
    Yields (Reads Definition.comments ((autoincrement column key).comments dialect table))
      (autoincrementPlan dialect table column key) := by
  refine .after fun _ => ?_
  cases dialect with
  | mysql =>
    refine (column.yields_comments table).map fun definition h => ?_
    refine Definition.reads_comments_one table (.modifyWithKey definition _) (h.trans ?_)
    exact (List.flatMap_singleton _ _).symm
  | postgres => exact .ok rfl
  | sqlite | sqlServer => exact .error

/-- The operations that define no column. -/
theorem comments_eq_nil {operation : AlterOperation} (h : operation.column? = none) :
    operation.comments dialect table = [] := by
  unfold comments described
  rw [h]
  exact ite_self _

/-- An operation that defines a column without making it auto-incrementing. -/
theorem comments_of_column {operation : AlterOperation} {column : Column}
    (h : operation.column? = some column) (hcounter : operation.makesCounter = false) :
    operation.comments dialect table = column.described table := by
  unfold comments described
  rw [h, hcounter, if_neg fun h => nomatch h.2]
  exact List.flatMap_singleton _ _

theorem reads_nil_of_noColumn {operation : AlterOperation} (h : operation.column? = none)
    (types : ColumnTypes) :
    Yields (Reads Definition.comments []) (operation.plan dialect table types) := by
  cases operation with
  | addColumn | addAutoincrement | modifyColumn | autoincrement => cases h
  | renameColumn source target =>
    refine (yields_renamePlan table source target types).imp ?_
    rintro _ (⟨type, -, rfl⟩ | rfl | rfl) <;> rfl
  | dropColumn name => exact .ok rfl
  | addKey kind key | dropKey kind name =>
    cases dialect <;> cases kind <;> first | exact .ok rfl | exact .error
  | addForeign key => exact (yields_addForeignPlan table key).imp fun _ h => h ▸ rfl
  | setDefault | dropDefault =>
    cases dialect <;> first | exact .ok rfl | exact .error

theorem comments_plan (hdialect : dialect ≠ .sqlite) (types : ColumnTypes)
    (operation : AlterOperation) :
    Yields (Reads Definition.comments (operation.comments dialect table))
      (operation.plan dialect table types) := by
  cases operation with
  | addColumn column =>
    rw [comments_of_column table rfl rfl]
    refine (column.yields_comments table).map fun definition h => ?_
    exact column.reads_description table hdialect
      (Definition.reads_comments_one table (.addColumn definition) h)
  | addAutoincrement column key =>
    rw [comments_of_column table rfl rfl]
    exact (comments_addAutoincrementPlan table column key).map fun _ =>
      column.reads_description table hdialect
  | modifyColumn column =>
    rw [comments_of_column table rfl rfl]
    exact (comments_modifyPlan table column).map fun _ => column.reads_description table hdialect
  | autoincrement column key => exact comments_autoincrementPlan table column key
  | _ =>
    rw [comments_eq_nil table rfl]
    exact reads_nil_of_noColumn table rfl types

end AlterOperation

end

namespace AlterTable

/-- The statements for changes of a table fall into those of each operation, and each of them is
read back. Outside of SQLite those of an operation are read as making the comment that the
description of its column asks for, once, and no others; only in PostgreSQL a column that becomes
auto-incrementing is left without its comment. -/
theorem descriptions_kept {dialect : Dialect} (hdialect : dialect ≠ .sqlite) {alter : AlterTable}
    {types : ColumnTypes} {statements : List Compiled}
    (h : alter.compile dialect types = .ok statements) :
    ∃ parts : List (List Definition),
      statements = parts.flatten.map (Definition.compile dialect) ∧
      List.Forall₂ (fun operation part =>
        operation.plan dialect alter.name types = .ok part ∧
        ∃ sentences : List SchemaSentence,
          (part.map (Definition.compile dialect)).map (fun statement =>
            SchemaSentence.ofText? dialect types statement.sql) = sentences.map some ∧
          sentences.flatMap SchemaSentence.comments =
            if dialect = .postgres ∧ operation.makesCounter then []
            else operation.described alter.name) alter.operations parts := by
  obtain ⟨definitions, hplan, rfl⟩ := map_eq_ok_iff.mp h
  obtain ⟨parts, hparts, rfl⟩ := map_eq_ok_iff.mp hplan
  refine ⟨parts, rfl, (forall₂_of_mapM_eq_ok hparts).imp fun operation part hpart => ⟨hpart, ?_⟩⟩
  obtain ⟨sentences, hwritten, hread⟩ :=
    (operation.allWritten_plan alter.name part hpart).exists_sentences
  refine ⟨sentences, hread, ?_⟩
  calc sentences.flatMap SchemaSentence.comments
      = part.flatMap Definition.comments :=
        flatMap_eq_of_forall₂ (fun _ _ h => h.comments_eq) hwritten
    _ = operation.comments dialect alter.name :=
        operation.comments_plan alter.name hdialect types part hpart

/-- In MySQL a column that becomes auto-incrementing keeps the description that it got before. -/
theorem descriptions_kept_of_counter :
    ∃ (statements : List Compiled) (sentences : List SchemaSentence),
      (ofSteps "t" [.modify ⟨"a", .integer, {}⟩
        { steps := [.description "x", .autoincrement] }]).compile .mysql .empty = .ok statements ∧
      statements.map Compiled.sql =
        ["ALTER TABLE t MODIFY a INT AUTO_INCREMENT NOT NULL COMMENT 'x', " ++
          "ADD CONSTRAINT t_pk_a PRIMARY KEY (a)"] ∧
      statements.map (fun statement => SchemaSentence.ofText? .mysql .empty statement.sql) =
        sentences.map some ∧
      sentences.flatMap SchemaSentence.comments = [⟨"t.a", "x"⟩] := by
  obtain ⟨statements, hcompile, hsql⟩ : ∃ statements : List Compiled,
      (ofSteps "t" [.modify ⟨"a", .integer, {}⟩
        { steps := [.description "x", .autoincrement] }]).compile .mysql .empty = .ok statements ∧
      statements.map Compiled.sql =
        ["ALTER TABLE t MODIFY a INT AUTO_INCREMENT NOT NULL COMMENT 'x', " ++
          "ADD CONSTRAINT t_pk_a PRIMARY KEY (a)"] := ⟨_, rfl, by decide⟩
  obtain ⟨parts, hstatements, hparts⟩ := descriptions_kept (by decide) hcompile
  obtain ⟨part, _, ⟨-, sentences, hread, hcomments⟩, hrest, rfl⟩ :=
    List.forall₂_cons_left_iff.mp hparts
  cases List.forall₂_nil_left_iff.mp hrest
  rw [List.flatten_singleton] at hstatements
  exact ⟨statements, sentences, hcompile, hsql, hstatements ▸ hread, hcomments⟩

/-- In PostgreSQL it loses the description: the only statement is read as a change that makes no
comment. -/
theorem description_of_counter_lost :
    ∃ (statements : List Compiled) (sentence : SchemaSentence),
      (ofSteps "t" [.modify ⟨"a", .integer, {}⟩
        { steps := [.description "x", .autoincrement] }]).compile .postgres .empty =
          .ok statements ∧
      statements.map Compiled.sql = ["ALTER TABLE t ALTER COLUMN a SET NOT NULL, " ++
        "ALTER COLUMN a ADD GENERATED BY DEFAULT AS IDENTITY, " ++
        "ADD CONSTRAINT t_pk_a PRIMARY KEY (a)"] ∧
      statements.map (fun statement => SchemaSentence.ofText? .postgres .empty statement.sql) =
        [some sentence] ∧
      sentence = .alterTable "t" [.setNullable "a" false, .addIdentity "a",
        .addLine (.primaryKey ⟨"t_pk_a", ["a"]⟩)] ∧
      sentence.comments = [] :=
  ⟨_, _, rfl, by decide +kernel, by decide +kernel, rfl, rfl⟩

end AlterTable

end SqlDialects
