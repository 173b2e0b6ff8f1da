import SqlDialects.Proofs.Result
import SqlDialects.Proofs.Table.Texts

/-! What the plans for statements about tables are put together from. A reading takes from each
definition what it says about some matter. Comments say nothing about it; what is read from a whole
plan follows from what is read from the plan of each operation. -/

namespace SqlDialects

namespace CreateTable

/-- The statements for a table whose columns have definitions. -/
def definitions (dialect : Dialect) (table : CreateTable) (columns : List ColumnDefinition) :
    List Definition :=
  .createTable table.name (columns.map .column ++ table.keyItems dialect)
      (if dialect = .mysql then table.engine else none) ::
    (if dialect = .mysql then []
      else table.indexes.map (Definition.createIndex false table.name)) ++
      table.columns.flatMap (Column.comments dialect table.name)

theorem plan_eq (dialect : Dialect) (table : CreateTable) :
    table.plan dialect =
      if table.columns.isEmpty then .error (.invalid (.tableWithoutColumn table.name))
      else
        table.columns.mapM (Column.definition dialect) >>= fun columns =>
        table.checkMarks dialect >>= fun _ =>
        table.foreignKeys.forM ForeignKey.check >>= fun _ =>
        pure (table.definitions dialect columns) := by
  unfold plan
  cases table.columns.isEmpty <;> rfl

theorem exists_of_plan_eq_ok {dialect : Dialect} {table : CreateTable}
    {definitions : List Definition} (h : table.plan dialect = .ok definitions) :
    ∃ columns, table.columns.mapM (Column.definition dialect) = .ok columns ∧
      definitions = table.definitions dialect columns := by
  rw [plan_eq] at h
  split at h
  · cases h
  obtain ⟨columns, hcolumns, h⟩ := bind_eq_ok_iff.mp h
  obtain ⟨_, _, h⟩ := bind_eq_ok_iff.mp h
  obtain ⟨_, _, h⟩ := bind_eq_ok_iff.mp h
  cases h
  exact ⟨columns, hcolumns, rfl⟩

theorem column_notMem_keyItems (dialect : Dialect) (table : CreateTable)
    (definition : ColumnDefinition) : .column definition ∉ table.keyItems dialect := by
  unfold keyItems
  split_ifs <;> simp

end CreateTable

/-- Whether this is what is read from several definitions. -/
def Reads (read : Definition → List α) (said : List α) (definitions : List Definition) : Prop :=
  definitions.flatMap read = said

section

variable {read : Definition → List α}
  (hread : ∀ table column text, read (.comment table column text) = [])

include hread

theorem Column.flatMap_comments (dialect : Dialect) (table : String) (column : Column) :
    (column.comments dialect table).flatMap read = [] := by
  have hone (text : String) : [Definition.comment table column.name text].flatMap read = [] := by
    rw [List.flatMap_singleton, hread]
  unfold comments
  split
  · exact hone _
  · exact hone _
  · rfl

theorem Reads.append_comments {said : List α} {definitions : List Definition}
    (h : Reads read said definitions) (dialect : Dialect) (table : String) (column : Column) :
    Reads read said (definitions ++ column.comments dialect table) := by
  unfold Reads at h ⊢
  rw [List.flatMap_append, h, Column.flatMap_comments hread, List.append_nil]

/-- A reading of the statements for a new table. -/
theorem CreateTable.reads_definitions {dialect : Dialect} (table : CreateTable)
    (columns : List ColumnDefinition) :
    Reads read
      (read (.createTable table.name (columns.map .column ++ table.keyItems dialect)
          (if dialect = .mysql then table.engine else none)) ++
        (if dialect = .mysql then []
          else table.indexes.map (Definition.createIndex false table.name)).flatMap read)
      (table.definitions dialect columns) := by
  have hcomments :
      (table.columns.flatMap (Column.comments dialect table.name)).flatMap read = [] := by
    rw [List.flatMap_assoc]
    exact List.flatMap_eq_nil_iff.mpr fun column _ =>
      column.flatMap_comments hread dialect table.name
  unfold Reads CreateTable.definitions
  rw [List.cons_append, List.flatMap_cons, List.flatMap_append, hcomments, List.append_nil]

end

namespace AlterOperation

variable {dialect : Dialect} (table : String)

/-- What gives a column a new definition. Only MySQL has a statement for all of it. -/
theorem yields_modifyPlan (column : Column) :
    Yields (fun definitions =>
        (dialect = .mysql ∧ ∃ definition, column.definition .mysql = .ok definition ∧
          definitions = [.alterTable table [.modifyColumn definition]]) ∨
        (dialect = .postgres ∧ ∃ type, column.nativeType .postgres = .ok type ∧
          definitions = [.alterTable table
            (.setType column.name type :: .setNullable column.name column.options.nullable ::
              column.options.default.toList.map (.setDefault column.name))]) ∨
        (dialect = .sqlServer ∧ ∃ type, column.nativeType .sqlServer = .ok type ∧
          definitions =
            .alterTable table [.setTypeAndNull column.name type column.options.nullable] ::
              column.options.default.toList.map fun value => .alterTable table
                [.addDefault (defaultConstraint table column.name) column.name value]))
      (modifyPlan dialect table column) := by
  intro definitions h
  cases dialect with
  | mysql =>
    obtain ⟨definition, hdefinition, rfl⟩ := map_eq_ok_iff.mp h
    exact .inl ⟨rfl, definition, hdefinition, rfl⟩
  | sqlite => cases h
  | postgres =>
    unfold modifyPlan at h
    dsimp only at h
    split at h
    · cases h
    obtain ⟨type, htype, rfl⟩ := map_eq_ok_iff.mp h
    exact .inr (.inl ⟨rfl, type, htype, rfl⟩)
  | sqlServer =>
    unfold modifyPlan at h
    dsimp only at h
    split at h
    · cases h
    obtain ⟨type, htype, rfl⟩ := map_eq_ok_iff.mp h
    exact .inr (.inr ⟨rfl, type, htype, rfl⟩)

/-- What renames a column: one statement, which says the type again in MySQL. -/
theorem yields_renamePlan (source target : String) (types : ColumnTypes) :
    Yields (fun definitions =>
        (∃ type, types.find? source = some type ∧
          definitions = [.alterTable table [.changeColumn source target type]]) ∨
        definitions = [.alterTable table [.renameColumn source target]] ∨
        definitions = [.callRenameColumn table source target])
      (renamePlan dialect table source target types) := by
  cases dialect with
  | mysql =>
    unfold renamePlan
    dsimp only
    split
    case h_1 type htype => exact .ok (.inl ⟨type, htype, rfl⟩)
    case h_2 => exact .error
  | sqlServer => exact .ok (.inr (.inr rfl))
  | postgres | sqlite => exact .ok (.inr (.inl rfl))

theorem yields_addForeignPlan (key : ForeignKey) :
    Yields (fun definitions => definitions = [.alterTable table [.addItem (.foreignKey key)]])
      (addForeignPlan dialect table key) := by
  unfold addForeignPlan
  dsimp only
  split
  · exact .error
  · exact .after fun _ => .ok rfl

end AlterOperation

namespace AlterTable

/-- A reading of the plan, operation by operation. -/
theorem reads_plan {dialect : Dialect} {alter : AlterTable} {types : ColumnTypes}
    {read : Definition → List α} {said : AlterOperation → List α}
    (h : ∀ operation ∈ alter.operations,
      Yields (Reads read (said operation)) (operation.plan dialect alter.name types)) :
    Yields (Reads read (alter.operations.flatMap said)) (alter.plan dialect types) := by
  refine (map_eq_of_mapM h).map fun parts hparts => ?_
  calc parts.flatten.flatMap read
      = (parts.flatMap id).flatMap read := by rw [List.flatMap_id]
    _ = parts.flatMap (List.flatMap read) := List.flatMap_assoc
    _ = (parts.map (List.flatMap read)).flatten := List.flatMap_def
    _ = (alter.operations.map said).flatten := by rw [hparts]
    _ = alter.operations.flatMap said := List.flatMap_def.symm

theorem compile_one_eq_ok_iff {dialect : Dialect} {table : String} {operation : AlterOperation}
    {types : ColumnTypes} {statements : List Compiled} :
    compile dialect ⟨table, [operation]⟩ types = .ok statements ↔
      ∃ definitions, operation.plan dialect table types = .ok definitions ∧
        statements = definitions.map (Definition.compile dialect) := by
  have hplan : plan dialect ⟨table, [operation]⟩ types = operation.plan dialect table types := by
    unfold AlterTable.plan
    rw [List.mapM_cons, List.mapM_nil]
    cases operation.plan dialect table types with
    | error error => rfl
    | ok definitions => exact congrArg Except.ok (List.append_nil definitions)
  unfold compile
  rw [hplan]
  exact map_eq_ok_iff

end AlterTable

theorem Definition.compile_alterOne (dialect : Dialect) (table : String) (action : AlterAction) :
    (alterTable table [action]).compile dialect =
      .plain ("ALTER TABLE " ++ Identifier.quote dialect table ++ " " ++ action.sql dialect) := rfl

namespace TableStatement

/-- The definitions that the statement is carried out by. -/
def plan (dialect : Dialect) : TableStatement → Except Error (List Definition)
  | create table => table.plan dialect
  | alter table types => table.plan dialect types

/-- The table that the statement is about. -/
def tableName : TableStatement → String
  | create table => table.name
  | alter table _ => table.name

/-- Whether the table is new. -/
def creates : TableStatement → Bool
  | create _ => true
  | alter _ _ => false

theorem compile_eq_ok_iff {dialect : Dialect} {s : TableStatement} {statements : List Compiled} :
    s.compile dialect = .ok statements ↔ ∃ definitions, s.plan dialect = .ok definitions ∧
      statements = definitions.map (Definition.compile dialect) := by
  have hcompile : s.compile dialect = s.plan dialect >>= fun definitions =>
      pure (definitions.map (Definition.compile dialect)) := by
    cases s <;> rfl
  rw [hcompile]
  exact map_eq_ok_iff

end TableStatement

end SqlDialects
