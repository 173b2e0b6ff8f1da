import SqlDialects.Proofs.Table.Sentence

/-! Defaults of columns. What a statement declares as defaults is what its description asks for, and
it is read off the text. In SQL Server a default is a constraint, and it is dropped under the name
of that constraint. Statements that change a default name it after the table and the column; the
definition of a column leaves the name to the database. -/

namespace SqlDialects

/-- A default with the name that its constraint was given, if it is one with a name. -/
structure ColumnDefault where
  table : String
  column : String
  constraint : Option String
  value : Value
deriving DecidableEq, Repr

namespace ColumnDefault

/-- The statement that declares a default under a name. -/
def addText (default : ColumnDefault) (name : String) : String :=
  "ALTER TABLE " ++ Identifier.quote .sqlServer default.table ++ " " ++
    ("ADD CONSTRAINT " ++ Identifier.quote .sqlServer name ++ " DEFAULT " ++
      default.value.literal .sqlServer ++ " FOR " ++ Identifier.quote .sqlServer default.column)

/-- The statement that drops a constraint of a table. -/
def dropText (table name : String) : String :=
  "ALTER TABLE " ++ Identifier.quote .sqlServer table ++ " " ++
    ("DROP CONSTRAINT " ++ Identifier.quote .sqlServer name)

/-- Whether the default is what the statement for dropping the default of its column drops. -/
def IsDropped (default : ColumnDefault) : Prop :=
  ∀ types statements,
    AlterTable.compile .sqlServer ⟨default.table, [.dropDefault default.column]⟩ types =
        .ok statements →
      ∃ name, default.constraint = some name ∧ statements = [.plain (dropText default.table name)]

theorem compile_dropDefault (table column : String) (types : ColumnTypes) :
    AlterTable.compile .sqlServer ⟨table, [.dropDefault column]⟩ types =
      .ok [.plain (dropText table (AlterOperation.defaultConstraint table column))] := rfl

theorem isDropped_of_named {default : ColumnDefault}
    (h : default.constraint =
      some (AlterOperation.defaultConstraint default.table default.column)) :
    default.IsDropped := by
  intro types statements hcompile
  cases (compile_dropDefault default.table default.column types).symm.trans hcompile
  exact ⟨_, h, rfl⟩

theorem not_isDropped_of_unnamed {default : ColumnDefault} (h : default.constraint = none) :
    ¬default.IsDropped := by
  intro hdropped
  obtain ⟨name, hname, -⟩ := hdropped .empty _ (compile_dropDefault default.table default.column _)
  cases h.symm.trans hname

end ColumnDefault

/-- The default in the definition of a column, which has no name. -/
def ColumnDefinition.default? (table : String) (definition : ColumnDefinition) :
    Option ColumnDefault :=
  definition.default.map fun value => ⟨table, definition.name, none, value⟩

def TableItem.default? (table : String) : TableItem → Option ColumnDefault
  | column definition => definition.default? table
  | _ => none

/-- The default that an action declares. -/
def AlterAction.default? (table : String) : AlterAction → Option ColumnDefault
  | addColumn definition => definition.default? table
  | addColumnWithKey definition _ => definition.default? table
  | addItem item => item.default? table
  | modifyColumn definition => definition.default? table
  | modifyWithKey definition _ => definition.default? table
  | setDefault column value => some ⟨table, column, none, value⟩
  | addDefault constraint column value => some ⟨table, column, some constraint, value⟩
  | _ => none

/-- The defaults that a statement declares. -/
def Definition.defaults : Definition → List ColumnDefault
  | createTable name items _ => items.filterMap (TableItem.default? name)
  | alterTable table actions => actions.filterMap (AlterAction.default? table)
  | _ => []

/-- A default as it is written. -/
structure WrittenDefault where
  table : String
  column : String
  constraint : Option String
  value : Literal
deriving DecidableEq, Repr

def ColumnDefault.written (dialect : Dialect) (default : ColumnDefault) : WrittenDefault :=
  ⟨default.table, default.column, default.constraint, default.value.written dialect⟩

def WrittenColumn.defaults (table : String) (column : WrittenColumn) : List WrittenDefault :=
  (column.clauses.filterMap ColumnPart.default?).map fun value => ⟨table, column.name, none, value⟩

def TableLine.defaults (table : String) : TableLine → List WrittenDefault
  | column written => written.defaults table
  | _ => []

def WrittenAction.defaults (table : String) : WrittenAction → List WrittenDefault
  | addLine line => line.defaults table
  | modifyColumn column => column.defaults table
  | setDefault column value => [⟨table, column, none, value⟩]
  | addDefault constraint column value => [⟨table, column, some constraint, value⟩]
  | _ => []

/-- The defaults that a statement declares, as they are read off its text. -/
def SchemaSentence.defaults : SchemaSentence → List WrittenDefault
  | ofTable (.createTable name lines _) => lines.flatMap (TableLine.defaults name)
  | alterTable table actions => actions.flatMap (WrittenAction.defaults table)
  | _ => []

section

variable {dialect : Dialect} (table : String)

theorem ColumnDefinition.WrittenAs.defaults_table_eq {definition : ColumnDefinition}
    {written : WrittenColumn} (h : definition.WrittenAs dialect written) :
    written.defaults table =
      (definition.default? table).toList.map (ColumnDefault.written dialect) := by
  rw [WrittenColumn.defaults, h.defaults_eq, h.name_eq, ColumnDefinition.default?]
  cases definition.default <;> rfl

theorem TableItem.WrittenAs.defaults_eq {item : TableItem} {line : TableLine}
    (h : item.WrittenAs dialect line) :
    line.defaults table = (item.default? table).toList.map (ColumnDefault.written dialect) := by
  cases h with
  | column h => exact h.defaults_table_eq table
  | _ => rfl

theorem AlterAction.WrittenAs.defaults_eq {types : ColumnTypes} {action : AlterAction}
    {written : List WrittenAction} (h : action.WrittenAs dialect types written) :
    written.flatMap (WrittenAction.defaults table) =
      (action.default? table).toList.map (ColumnDefault.written dialect) := by
  have hone (action : WrittenAction) : [action].flatMap (WrittenAction.defaults table) =
      action.defaults table := List.flatMap_singleton _ _
  cases h with
  | addColumn h => exact (hone _).trans (h.defaults_table_eq table)
  | addColumnWithKey key h | modifyWithKey key h =>
    exact (List.append_nil _).trans (h.defaults_table_eq table)
  | addKey h => exact (hone _).trans (h.defaults_eq table)
  | modifyColumn _ h => exact (hone _).trans (h.defaults_table_eq table)
  | _ => rfl

/-- A statement is read as declaring the defaults that it declares. -/
theorem Definition.WrittenAs.defaults_eq {types : ColumnTypes} {definition : Definition}
    {sentence : SchemaSentence} (h : definition.WrittenAs dialect types sentence) :
    sentence.defaults = definition.defaults.map (ColumnDefault.written dialect) := by
  cases h with
  | @createTable name items engine lines options hitems h =>
    unfold SchemaSentence.defaults Definition.defaults
    dsimp only
    rw [List.filterMap_eq_flatMap_toList, List.map_flatMap]
    exact flatMap_eq_of_forall₂ (fun _ _ h => h.defaults_eq name) hitems
  | alterTable table _ h =>
    unfold SchemaSentence.defaults Definition.defaults
    dsimp only
    rw [List.filterMap_eq_flatMap_toList, List.map_flatMap]
    exact flatMap_flatten_of_forall₂ (fun _ _ h => h.defaults_eq table) h
  | _ => rfl

end

/-- The default of a column, as a constraint with or without a name. -/
def Column.default? (table : String) (constraint : Option String) (column : Column) :
    Option ColumnDefault :=
  column.options.default.map fun value => ⟨table, column.name, constraint, value⟩

namespace AlterOperation

/-- The name that the constraint of a default gets where a column gets a new definition or the
default alone is set. -/
def changedConstraint? (dialect : Dialect) (table column : String) : Option String :=
  match dialect with
  | .sqlServer => some (defaultConstraint table column)
  | _ => none

/-- The default that an operation declares. PostgreSQL makes a column auto-incrementing without
one. -/
def declaredDefault? (dialect : Dialect) (table : String) : AlterOperation → Option ColumnDefault
  | addColumn column => column.default? table none
  | addAutoincrement column _ => column.default? table none
  | modifyColumn column => column.default? table (changedConstraint? dialect table column.name)
  | setDefault column value =>
    some ⟨table, column, changedConstraint? dialect table column, value⟩
  | autoincrement column _ => if dialect = .postgres then none else column.default? table none
  | _ => none

end AlterOperation

/-- The defaults that a statement declares. In a new table they have no names. -/
def TableStatement.declaredDefaults (dialect : Dialect) : TableStatement → List ColumnDefault
  | create table => table.columns.filterMap (Column.default? table.name none)
  | alter table _ => table.operations.filterMap (AlterOperation.declaredDefault? dialect table.name)

theorem Definition.defaults_comment (table column text : String) :
    (comment table column text).defaults = [] := rfl

theorem Definition.defaults_alterOne (table : String) (action : AlterAction) :
    Reads defaults (action.default? table).toList [alterTable table [action]] := by
  unfold Reads
  rw [List.flatMap_singleton, defaults, List.filterMap_cons]
  cases action.default? table <;> rfl

theorem Column.default?_definition (dialect : Dialect) (table : String) (column : Column) :
    Yields (fun definition => definition.default? table = column.default? table none)
      (column.definition dialect) := by
  unfold Column.definition
  split
  · exact .after fun _ => .after fun _ => .ok rfl
  · exact .after fun _ => .ok rfl

namespace CreateTable

theorem defaults_keyItems (dialect : Dialect) (table : CreateTable) :
    (table.keyItems dialect).filterMap (TableItem.default? table.name) = [] := by
  refine List.filterMap_eq_nil_iff.mpr fun item hitem => ?_
  cases item with
  | column definition => exact absurd hitem (table.column_notMem_keyItems dialect definition)
  | _ => rfl

theorem defaults_definitions {dialect : Dialect} {table : CreateTable}
    {columns : List ColumnDefinition}
    (h : table.columns.mapM (Column.definition dialect) = .ok columns) :
    Reads Definition.defaults (table.columns.filterMap (Column.default? table.name none))
      (table.definitions dialect columns) := by
  have hdefined : columns.map (ColumnDefinition.default? table.name) =
      table.columns.map (Column.default? table.name none) :=
    map_eq_of_mapM (fun column _ => column.default?_definition dialect table.name) columns h
  have hcolumns : (columns.map TableItem.column).filterMap (TableItem.default? table.name) =
      table.columns.filterMap (Column.default? table.name none) :=
    calc (columns.map TableItem.column).filterMap (TableItem.default? table.name)
        = columns.filterMap (ColumnDefinition.default? table.name) := by
          rw [List.filterMap_map]
          rfl
      _ = (columns.map (ColumnDefinition.default? table.name)).filterMap id := by
          rw [List.filterMap_map, Function.id_comp]
      _ = (table.columns.map (Column.default? table.name none)).filterMap id := by rw [hdefined]
      _ = table.columns.filterMap (Column.default? table.name none) := by
          rw [List.filterMap_map, Function.id_comp]
  have hindexes : (if dialect = .mysql then []
      else table.indexes.map (Definition.createIndex false table.name)).flatMap
        Definition.defaults = [] := by
    refine List.flatMap_eq_nil_iff.mpr fun definition hmem => ?_
    split at hmem
    · cases hmem
    · obtain ⟨key, -, rfl⟩ := List.mem_map.mp hmem
      rfl
  unfold Reads
  rw [table.reads_definitions Definition.defaults_comment columns, hindexes, List.append_nil,
    Definition.defaults, List.filterMap_append, hcolumns, defaults_keyItems, List.append_nil]

end CreateTable

namespace AlterOperation

section

variable {dialect : Dialect} (table : String)

theorem defaults_addAutoincrementPlan (column : Column) (key : String) :
    Yields (Reads Definition.defaults (column.default? table none).toList)
      (addAutoincrementPlan dialect table column key) := by
  refine (column.default?_definition dialect table).bind fun definition hdefault => ?_
  have hone := Definition.defaults_alterOne table
    (.addColumnWithKey definition (soleKey key column))
  rw [AlterAction.default?, hdefault] at hone
  split
  · exact .error
  · exact .ok hone

theorem defaults_modifyPlan (column : Column) :
    Yields (Reads Definition.defaults ((modifyColumn column).declaredDefault? dialect table).toList)
      (modifyPlan dialect table column) := by
  refine (yields_modifyPlan table column).imp ?_
  rintro _ (⟨rfl, definition, hdefinition, rfl⟩ | ⟨rfl, type, -, rfl⟩ | ⟨rfl, type, -, rfl⟩)
  · have hone := Definition.defaults_alterOne table (.modifyColumn definition)
    rwa [AlterAction.default?, column.default?_definition .mysql table definition hdefinition]
      at hone
  · dsimp only [declaredDefault?, Column.default?]
    cases column.options.default <;> rfl
  · dsimp only [declaredDefault?, Column.default?]
    cases column.options.default <;> rfl

theorem defaults_autoincrementPlan (column : Column) (key : String) :
    Yields (Reads Definition.defaults
        ((autoincrement column key).declaredDefault? dialect table).toList)
      (autoincrementPlan dialect table column key) := by
  refine .after fun _ => ?_
  cases dialect with
  | mysql =>
    refine (column.default?_definition .mysql table).map fun definition hdefault => ?_
    have hone := Definition.defaults_alterOne table (.modifyWithKey definition (soleKey key column))
    rwa [AlterAction.default?, hdefault] at hone
  | postgres => exact .ok rfl
  | sqlite | sqlServer => exact .error

/-- The statements for an operation declare its default and no other. -/
theorem defaults_plan (types : ColumnTypes) (operation : AlterOperation) :
    Yields (Reads Definition.defaults (operation.declaredDefault? dialect table).toList)
      (operation.plan dialect table types) := by
  have hcomments {said : List ColumnDefault} {definitions : List Definition} (column : Column)
      (h : Reads Definition.defaults said definitions) :=
    h.append_comments Definition.defaults_comment dialect table column
  cases operation with
  | addColumn column =>
    refine (column.default?_definition dialect table).map fun definition hdefault => ?_
    have hone := Definition.defaults_alterOne table (.addColumn definition)
    rw [AlterAction.default?, hdefault] at hone
    exact hcomments column hone
  | addAutoincrement column key =>
    exact (defaults_addAutoincrementPlan table column key).map fun _ => hcomments column
  | modifyColumn column => exact (defaults_modifyPlan table column).map fun _ => hcomments column
  | autoincrement column key => exact defaults_autoincrementPlan table column key
  | renameColumn source target =>
    refine (yields_renamePlan table source target types).imp ?_
    rintro _ (⟨type, -, rfl⟩ | rfl | rfl) <;> rfl
  | dropColumn name => exact .ok rfl
  | addKey kind key | dropKey kind name =>
    cases dialect <;> cases kind <;> first | exact .ok rfl | exact .error
  | addForeign key => exact (yields_addForeignPlan table key).imp fun _ h => h ▸ rfl
  | setDefault | dropDefault =>
    cases dialect <;> first | exact .ok rfl | exact .error

end

/-- A default that an operation names is declared by a statement of its own. -/
theorem addDefault_mem_plan (table : String) {operation : AlterOperation}
    {default : ColumnDefault} {name : String}
    (hdefault : operation.declaredDefault? .sqlServer table = some default)
    (hname : default.constraint = some name) (types : ColumnTypes) :
    default.table = table ∧ name = defaultConstraint table default.column ∧
      Yields (Definition.alterTable table [.addDefault name default.column default.value] ∈ ·)
        (operation.plan .sqlServer table types) := by
  cases operation with
  | addColumn column | addAutoincrement column key | autoincrement column key =>
    obtain ⟨value, -, rfl⟩ := Option.map_eq_some_iff.mp hdefault
    cases hname
  | modifyColumn column =>
    obtain ⟨value, hvalue, rfl⟩ := Option.map_eq_some_iff.mp hdefault
    cases hname
    have hplan : Yields (Definition.alterTable table
        [.addDefault (defaultConstraint table column.name) column.name value] ∈ ·)
        (modifyPlan .sqlServer table column) := by
      refine (yields_modifyPlan table column).imp ?_
      rintro _ (⟨hother, -⟩ | ⟨hother, -⟩ | ⟨-, type, -, rfl⟩)
      · cases hother
      · cases hother
      · rw [hvalue]
        exact List.mem_cons_of_mem _ List.mem_cons_self
    exact ⟨rfl, rfl, hplan.map fun _ hmem => List.mem_append_left _ hmem⟩
  | setDefault column value =>
    cases hdefault
    cases hname
    exact ⟨rfl, rfl, .ok List.mem_cons_self⟩
  | _ => cases hdefault

end AlterOperation

namespace TableStatement

theorem defaults_plan (dialect : Dialect) (s : TableStatement) :
    Yields (Reads Definition.defaults (s.declaredDefaults dialect)) (s.plan dialect) := by
  intro definitions h
  cases s with
  | create table =>
    obtain ⟨columns, hcolumns, rfl⟩ := CreateTable.exists_of_plan_eq_ok h
    exact CreateTable.defaults_definitions hcolumns
  | alter table types =>
    have hread : Reads Definition.defaults (table.operations.flatMap fun o =>
        (o.declaredDefault? dialect table.name).toList) definitions :=
      AlterTable.reads_plan (fun operation _ => operation.defaults_plan table.name types)
        definitions h
    rwa [← List.filterMap_eq_flatMap_toList] at hread

/-- The statements of a plan are read as declaring the defaults of the description. -/
theorem exists_defaults_sentences {dialect : Dialect} {s : TableStatement}
    {definitions : List Definition} (h : s.plan dialect = .ok definitions) :
    ∃ sentences : List SchemaSentence,
      (definitions.map (Definition.compile dialect)).map (fun statement =>
        SchemaSentence.ofText? dialect s.types statement.sql) = sentences.map some ∧
      sentences.flatMap SchemaSentence.defaults =
        (s.declaredDefaults dialect).map (ColumnDefault.written dialect) := by
  obtain ⟨sentences, hwritten, hread⟩ := (s.allWritten_plan dialect definitions h).exists_sentences
  refine ⟨sentences, hread, ?_⟩
  calc sentences.flatMap SchemaSentence.defaults
      = definitions.flatMap fun definition =>
          definition.defaults.map (ColumnDefault.written dialect) :=
        flatMap_eq_of_forall₂ (fun _ _ h => h.defaults_eq) hwritten
    _ = (definitions.flatMap Definition.defaults).map (ColumnDefault.written dialect) :=
        List.map_flatMap.symm
    _ = (s.declaredDefaults dialect).map (ColumnDefault.written dialect) := by
        rw [s.defaults_plan dialect definitions h]

/-- Statements with the same texts declare defaults that are written in the same way. -/
theorem map_written_eq_of_compile {dialect : Dialect} {s t : TableStatement}
    {statements : List Compiled} (htypes : s.types = t.types)
    (hs : s.compile dialect = .ok statements) (ht : t.compile dialect = .ok statements) :
    (s.declaredDefaults dialect).map (ColumnDefault.written dialect) =
      (t.declaredDefaults dialect).map (ColumnDefault.written dialect) := by
  obtain ⟨definitions, hplan, rfl⟩ := compile_eq_ok_iff.mp hs
  obtain ⟨others, hothers, hsame⟩ := compile_eq_ok_iff.mp ht
  obtain ⟨sentences, hread, hdefaults⟩ := exists_defaults_sentences hplan
  obtain ⟨sentences', hread', hdefaults'⟩ := exists_defaults_sentences hothers
  rw [← hsame, ← htypes, hread] at hread'
  have hsentences : sentences = sentences' :=
    List.map_injective_iff.mpr (fun _ _ h => Option.some.inj h) hread'
  rw [← hdefaults, ← hdefaults', hsentences]

/-- The statement that declares a default under a name is among those of the plan. -/
theorem addDefault_mem_compile {s : TableStatement} {statements : List Compiled}
    (h : s.compile .sqlServer = .ok statements) {default : ColumnDefault}
    (hmem : default ∈ s.declaredDefaults .sqlServer) {name : String}
    (hname : default.constraint = some name) :
    name = AlterOperation.defaultConstraint default.table default.column ∧
      .plain (default.addText name) ∈ statements := by
  obtain ⟨definitions, hplan, rfl⟩ := compile_eq_ok_iff.mp h
  cases s with
  | create table =>
    obtain ⟨column, -, hdefault⟩ := List.mem_filterMap.mp hmem
    obtain ⟨value, -, rfl⟩ := Option.map_eq_some_iff.mp hdefault
    cases hname
  | alter table types =>
    obtain ⟨operation, hoperation, hdefault⟩ := List.mem_filterMap.mp hmem
    obtain ⟨htable, rfl, hadds⟩ :=
      AlterOperation.addDefault_mem_plan table.name hdefault hname types
    obtain ⟨parts, hparts, hflatten⟩ := bind_eq_ok_iff.mp hplan
    cases hflatten
    obtain ⟨part, hpart, hone⟩ := exists_of_mapM_eq_ok hparts hoperation
    rw [htable]
    refine ⟨rfl, List.mem_map.mpr ⟨_, List.mem_flatten.mpr ⟨part, hpart, hadds part hone⟩, ?_⟩⟩
    rw [Definition.compile_alterOne, ColumnDefault.addText, htable]
    rfl

/-- The statements for SQL Server declare the defaults of their description, and they are read as
declaring them. A default is dropped with the statement for dropping the default of its column
exactly if it is declared with a name; the name is then the one that is made of the names of the
table and the column. -/
theorem defaults_dropped_iff {s : TableStatement} {statements : List Compiled}
    (h : s.compile .sqlServer = .ok statements) :
    ∃ (definitions : List Definition) (sentences : List SchemaSentence),
      s.plan .sqlServer = .ok definitions ∧
      statements = definitions.map (Definition.compile .sqlServer) ∧
      statements.map (fun statement => SchemaSentence.ofText? .sqlServer s.types statement.sql) =
        sentences.map some ∧
      sentences.flatMap SchemaSentence.defaults =
        (s.declaredDefaults .sqlServer).map (ColumnDefault.written .sqlServer) ∧
      definitions.flatMap Definition.defaults = s.declaredDefaults .sqlServer ∧
      ∀ default ∈ s.declaredDefaults .sqlServer,
        (default.IsDropped ↔ default.constraint.isSome) ∧
        ∀ name, default.constraint = some name →
          name = AlterOperation.defaultConstraint default.table default.column ∧
            .plain (default.addText name) ∈ statements := by
  obtain ⟨definitions, hplan, hstatements⟩ := compile_eq_ok_iff.mp h
  obtain ⟨sentences, hread, hsentences⟩ := exists_defaults_sentences hplan
  refine ⟨definitions, sentences, hplan, hstatements, hstatements ▸ hread, hsentences,
    s.defaults_plan .sqlServer definitions hplan,
    fun default hmem => ⟨?_, fun name hname => addDefault_mem_compile h hmem hname⟩⟩
  cases hconstraint : default.constraint with
  | none => exact iff_of_false (ColumnDefault.not_isDropped_of_unnamed hconstraint) (by decide)
  | some name =>
    obtain ⟨hname, -⟩ := addDefault_mem_compile h hmem hconstraint
    exact iff_of_true (ColumnDefault.isDropped_of_named (hconstraint.trans (congrArg some hname)))
      rfl

/-- A default that is set on its own is dropped. -/
theorem defaults_dropped_of_setDefault :
    let s : TableStatement := .alter ⟨"t", [.setDefault "c" (.int 1)]⟩ .empty
    s.compile .sqlServer =
        .ok [.plain "ALTER TABLE t ADD CONSTRAINT DF_t_c DEFAULT 1 FOR c"] ∧
      (ColumnDefault.mk "t" "c" (some "DF_t_c") (.int 1)).IsDropped ∧
      AlterTable.compile .sqlServer ⟨"t", [.dropDefault "c"]⟩ .empty =
        .ok [.plain "ALTER TABLE t DROP CONSTRAINT DF_t_c"] := by
  intro s
  have hcompile : s.compile .sqlServer =
      .ok [.plain "ALTER TABLE t ADD CONSTRAINT DF_t_c DEFAULT 1 FOR c"] := by rfl
  obtain ⟨_, _, _, _, _, _, _, hdropped⟩ := defaults_dropped_iff hcompile
  have hmem : ⟨"t", "c", some "DF_t_c", .int 1⟩ ∈ s.declaredDefaults .sqlServer := by decide
  exact ⟨hcompile, (hdropped _ hmem).1.mpr rfl, by rfl⟩

/-- A default in the definition of a column has no name, in a new table as in an older one. What is
sent to drop it names a constraint that there is not. -/
theorem defaults_of_definitions_not_dropped :
    let column : Column := ⟨"c", .integer, { default := some (.int 1) }⟩
    let created : TableStatement := .create { name := "t", columns := [column] }
    let added : TableStatement := .alter ⟨"t", [.addColumn column]⟩ .empty
    created.compile .sqlServer = .ok [.plain "CREATE TABLE t (\n    c INTEGER DEFAULT 1\n)"] ∧
      added.compile .sqlServer = .ok [.plain "ALTER TABLE t ADD c INTEGER DEFAULT 1"] ∧
      AlterTable.compile .sqlServer ⟨"t", [.dropDefault "c"]⟩ .empty =
        .ok [.plain "ALTER TABLE t DROP CONSTRAINT DF_t_c"] ∧
      (created.plan .sqlServer).map (List.flatMap Definition.defaults) =
        .ok [⟨"t", "c", none, .int 1⟩] ∧
      (added.plan .sqlServer).map (List.flatMap Definition.defaults) =
        .ok [⟨"t", "c", none, .int 1⟩] ∧
      (∀ text ∈ ["CREATE TABLE t (\n    c INTEGER DEFAULT 1\n)",
          "ALTER TABLE t ADD c INTEGER DEFAULT 1"],
        (SchemaSentence.ofText? .sqlServer .empty text).map SchemaSentence.defaults =
          some [⟨"t", "c", none, .word ['1']⟩]) ∧
      ¬(ColumnDefault.mk "t" "c" none (.int 1)).IsDropped := by
  refine ⟨by rfl, by rfl, by rfl, by rfl, by rfl, by decide +kernel, ?_⟩
  exact ColumnDefault.not_isDropped_of_unnamed rfl

end TableStatement

end SqlDialects
