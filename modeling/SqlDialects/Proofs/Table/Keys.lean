import SqlDialects.Proofs.Table.Sentence

/-! What becomes of the keys of tables. A database has a key as a constraint of its table or as an
index beside it, and what drops the one does not drop the other. Keys are declared in two places,
when a table is created and when it is changed, and dropped in a third one, which knows no more than
their kind and name. -/

namespace SqlDialects

/-- What a key is to a database. -/
inductive KeySort where
  | constraint (kind : KeyKind)
  | index
deriving DecidableEq, Repr

/-- As what a key is declared, when its table is created or after that. MySQL has unique constraints
as indexes. -/
def KeyKind.declaredSort (dialect : Dialect) (created : Bool) : KeyKind → KeySort
  | .index => .index
  | .unique =>
    match dialect with
    | .mysql => .index
    | .sqlite => if created then .constraint .unique else .index
    | _ => .constraint .unique
  | kind => .constraint kind

theorem KeyKind.declaredSort_eq_iff (dialect : Dialect) (kind : KeyKind) :
    kind.declaredSort dialect true = kind.declaredSort dialect false ↔
      ¬(dialect = .sqlite ∧ kind = .unique) := by
  cases dialect <;> cases kind <;> decide

/-- A key as a database has it. -/
structure KeyObject where
  sort : KeySort
  table : String
  name : String
deriving DecidableEq, Repr

theorem Definition.sql_dropIndex {dialect : Dialect} (h : dialect ≠ .sqlServer)
    (name table : String) :
    (dropIndex name table).sql dialect = "DROP INDEX " ++ Identifier.quote dialect name := by
  cases dialect with
  | sqlServer => exact absurd rfl h
  | _ => exact String.append_empty

namespace KeyObject

/-- The statement that drops the object, if the dialect has one. -/
def dropText? (dialect : Dialect) (object : KeyObject) : Option String :=
  let name := Identifier.quote dialect object.name
  let change (action : String) :=
    some ("ALTER TABLE " ++ Identifier.quote dialect object.table ++ " " ++ action)
  match dialect, object.sort with
  | .mysql, .constraint .primary => change "DROP PRIMARY KEY"
  | .mysql, .constraint .foreign => change ("DROP FOREIGN KEY " ++ name)
  | .mysql, .constraint _ => none
  | .mysql, .index => change ("DROP INDEX " ++ name)
  | .sqlite, .constraint _ => none
  | _, .constraint _ => change ("DROP CONSTRAINT " ++ name)
  | .sqlServer, .index =>
    some ("DROP INDEX " ++ name ++ (" ON " ++ Identifier.quote .sqlServer object.table))
  | _, .index => some ("DROP INDEX " ++ name)

/-- Whether a key with the name of the object, dropped as one of this kind, is the object: if that
compiles, it is to the statement that drops the object. -/
def IsDroppedAs (dialect : Dialect) (kind : KeyKind) (object : KeyObject) : Prop :=
  ∀ types statements,
    AlterTable.compile dialect ⟨object.table, [.dropKey kind object.name]⟩ types = .ok statements →
      ∃ text, object.dropText? dialect = some text ∧ statements = [.plain text]

theorem isDroppedAs_of_error {dialect : Dialect} {kind : KeyKind} {object : KeyObject} {e : Error}
    (h : AlterOperation.dropKeyPlan dialect object.table kind object.name = .error e) :
    object.IsDroppedAs dialect kind := by
  intro types statements hcompile
  obtain ⟨definitions, hplan, -⟩ := AlterTable.compile_one_eq_ok_iff.mp hcompile
  cases h.symm.trans hplan

theorem isDroppedAs_iff_of_ok {dialect : Dialect} {kind : KeyKind} {object : KeyObject}
    {definition : Definition}
    (h : AlterOperation.dropKeyPlan dialect object.table kind object.name = .ok [definition]) :
    object.IsDroppedAs dialect kind ↔ object.dropText? dialect = some (definition.sql dialect) := by
  constructor
  · intro hdropped
    obtain ⟨text, htext, hstatements⟩ := hdropped .empty _
      (AlterTable.compile_one_eq_ok_iff.mpr ⟨_, h, rfl⟩)
    cases hstatements
    exact htext
  · intro htext types statements hcompile
    obtain ⟨definitions, hplan, rfl⟩ := AlterTable.compile_one_eq_ok_iff.mp hcompile
    cases h.symm.trans hplan
    exact ⟨_, htext, rfl⟩

/-- What a key is declared as, when its table is created or after that. -/
def declared (dialect : Dialect) (created : Bool) (table : String) (key : KeyKind × String) :
    KeyObject :=
  ⟨key.1.declaredSort dialect created, table, key.2⟩

/-- A key is dropped as what it is declared as. The exception are unique keys of new tables in
SQLite, which are no indexes. -/
theorem isDroppedAs_declared (dialect : Dialect) (created : Bool) (table : String)
    (kind : KeyKind) (name : String) :
    (declared dialect created table (kind, name)).IsDroppedAs dialect kind ↔
      ¬(dialect = .sqlite ∧ kind = .unique ∧ created = true) := by
  cases dialect with
  | mysql | sqlServer =>
    refine iff_of_true ?_ fun h => nomatch h.1
    cases kind <;> exact (isDroppedAs_iff_of_ok rfl).mpr rfl
  | postgres =>
    refine iff_of_true ?_ fun h => nomatch h.1
    cases kind with
    | index =>
      refine (isDroppedAs_iff_of_ok rfl).mpr ?_
      rw [Definition.sql_dropIndex (by decide)]
      rfl
    | _ => exact (isDroppedAs_iff_of_ok rfl).mpr rfl
  | sqlite =>
    cases kind with
    | primary | foreign => exact iff_of_true (isDroppedAs_of_error rfl) fun h => nomatch h.2.1
    | index =>
      rw [isDroppedAs_iff_of_ok rfl, Definition.sql_dropIndex (by decide)]
      exact iff_of_true rfl fun h => nomatch h.2.1
    | unique =>
      rw [isDroppedAs_iff_of_ok rfl, Definition.sql_dropIndex (by decide)]
      cases created with
      | false => exact iff_of_true rfl fun h => nomatch h.2.2
      | true => exact iff_of_false (fun h => nomatch h) fun h => h ⟨rfl, rfl, rfl⟩

end KeyObject

namespace TableItem

/-- The key that a line of a table declares. -/
def keyObject? (dialect : Dialect) (table : String) : TableItem → Option KeyObject
  | column _ => none
  | primaryKey key => some ⟨.constraint .primary, table, key.name⟩
  | uniqueKey key =>
    some ⟨if dialect = .mysql then .index else .constraint .unique, table, key.name⟩
  | index key => some ⟨.index, table, key.name⟩
  | foreignKey key => some ⟨.constraint .foreign, table, key.name⟩

end TableItem

/-- The key that an action declares. -/
def AlterAction.keyObject? (dialect : Dialect) (table : String) : AlterAction → Option KeyObject
  | addColumnWithKey _ key => some ⟨.constraint .primary, table, key.name⟩
  | modifyWithKey _ key => some ⟨.constraint .primary, table, key.name⟩
  | addItem item => item.keyObject? dialect table
  | _ => none

/-- The keys that a statement declares. -/
def Definition.keyObjects (dialect : Dialect) : Definition → List KeyObject
  | createTable name items _ => items.filterMap (TableItem.keyObject? dialect name)
  | createIndex _ table key => [⟨.index, table, key.name⟩]
  | alterTable table actions => actions.filterMap (AlterAction.keyObject? dialect table)
  | _ => []

/-- The key that a line of a table declares, as it is written. -/
def TableLine.keyObject? (dialect : Dialect) (table : String) : TableLine → Option KeyObject
  | column _ => none
  | primaryKey key => some ⟨.constraint .primary, table, key.name⟩
  | uniqueKey key =>
    some ⟨if dialect = .mysql then .index else .constraint .unique, table, key.name⟩
  | index key => some ⟨.index, table, key.name⟩
  | foreignKey key => some ⟨.constraint .foreign, table, key.name⟩

def WrittenAction.keyObject? (dialect : Dialect) (table : String) :
    WrittenAction → Option KeyObject
  | addLine line => line.keyObject? dialect table
  | _ => none

/-- The keys that a statement declares, as they are read off its text. -/
def SchemaSentence.keyObjects (dialect : Dialect) : SchemaSentence → List KeyObject
  | ofTable (.createTable name lines _) => lines.filterMap (TableLine.keyObject? dialect name)
  | ofTable (.createIndex _ table key) => [⟨.index, table, key.name⟩]
  | alterTable table actions => actions.filterMap (WrittenAction.keyObject? dialect table)
  | _ => []

section

variable {dialect : Dialect} (table : String)

theorem TableItem.WrittenAs.keyObject?_eq {item : TableItem} {line : TableLine}
    (h : item.WrittenAs dialect line) :
    line.keyObject? dialect table = item.keyObject? dialect table := by
  cases h <;> rfl

theorem AlterAction.WrittenAs.keyObjects_eq {types : ColumnTypes} {action : AlterAction}
    {written : List WrittenAction} (h : action.WrittenAs dialect types written) :
    written.flatMap (fun action => (action.keyObject? dialect table).toList) =
      (action.keyObject? dialect table).toList := by
  cases h with
  | @addKey item line h =>
    rw [List.flatMap_singleton, WrittenAction.keyObject?, h.keyObject?_eq]
    rfl
  | _ => rfl

/-- A statement is read as declaring the keys that it declares. -/
theorem Definition.WrittenAs.keyObjects_eq {types : ColumnTypes} {definition : Definition}
    {sentence : SchemaSentence} (h : definition.WrittenAs dialect types sentence) :
    sentence.keyObjects dialect = definition.keyObjects dialect := by
  cases h with
  | @createTable name items engine lines options hitems h =>
    unfold SchemaSentence.keyObjects Definition.keyObjects
    dsimp only
    rw [List.filterMap_eq_flatMap_toList, List.filterMap_eq_flatMap_toList]
    exact flatMap_eq_of_forall₂ (fun _ _ h => congrArg Option.toList (h.keyObject?_eq name)) hitems
  | alterTable table _ h =>
    unfold SchemaSentence.keyObjects Definition.keyObjects
    dsimp only
    rw [List.filterMap_eq_flatMap_toList, List.filterMap_eq_flatMap_toList]
    exact flatMap_flatten_of_forall₂ (fun _ _ h => h.keyObjects_eq table) h
  | _ => rfl

end

/-- Items that stand inside of others or behind them. -/
theorem perm_inside_or_behind {inside : Prop} [Decidable inside] (front items back : List α) :
    (front ++ (if inside then items else []) ++ back ++ (if inside then [] else items)).Perm
      (front ++ items ++ back) := by
  by_cases h : inside
  · rw [if_pos h, if_pos h, List.append_nil]
  · rw [if_neg h, if_neg h, List.append_nil, List.append_assoc, List.append_assoc _ _ back]
    exact List.perm_append_comm.append_left _

theorem Definition.keyObjects_comment (dialect : Dialect) (table column text : String) :
    (comment table column text).keyObjects dialect = [] := rfl

namespace CreateTable

/-- The names of the keys of a kind. The primary key has none where the definition of its column
declares it. -/
def keyNames (dialect : Dialect) (table : CreateTable) : KeyKind → List String
  | .primary => if table.keyIsInline dialect then [] else table.primaryKey.toList.map Key.name
  | .unique => table.uniqueKeys.map Key.name
  | .index => table.indexes.map Key.name
  | .foreign => table.foreignKeys.map ForeignKey.name

/-- The keys that have names. -/
def namedKeys (dialect : Dialect) (table : CreateTable) : List (KeyKind × String) :=
  [.primary, .unique, .index, .foreign].flatMap fun kind =>
    (table.keyNames dialect kind).map fun name => (kind, name)

variable (dialect : Dialect) (table : CreateTable)

/-- What the keys of a kind are declared as. -/
def keyObjects (kind : KeyKind) : List KeyObject :=
  (table.keyNames dialect kind).map fun name => .declared dialect true table.name (kind, name)

/-- What is read from lines of one kind. -/
theorem keyObjects_map {kind : KeyKind} {item : α → TableItem} {name : α → String}
    (h : ∀ key, (item key).keyObject? dialect table.name =
      some (.declared dialect true table.name (kind, name key))) (keys : List α) :
    (keys.map item).filterMap (TableItem.keyObject? dialect table.name) =
      (keys.map name).map fun name => .declared dialect true table.name (kind, name) := by
  have hread : TableItem.keyObject? dialect table.name ∘ item =
      some ∘ (fun name => .declared dialect true table.name (kind, name)) ∘ name := funext h
  rw [List.filterMap_map, hread, List.filterMap_eq_map, List.map_map]

theorem keyObjects_keyItems :
    (table.keyItems dialect).filterMap (TableItem.keyObject? dialect table.name) =
      table.keyObjects dialect .primary ++ table.keyObjects dialect .unique ++
        (if dialect = .mysql then table.keyObjects dialect .index else []) ++
        table.keyObjects dialect .foreign := by
  have hprimary : (if table.keyIsInline dialect then [] else
      table.primaryKey.toList.map TableItem.primaryKey).filterMap
        (TableItem.keyObject? dialect table.name) = table.keyObjects dialect .primary := by
    unfold keyObjects keyNames
    split
    · rfl
    · exact keyObjects_map dialect table (fun _ => rfl) _
  have hunique (key : Key) : (TableItem.uniqueKey key).keyObject? dialect table.name =
      some (.declared dialect true table.name (.unique, key.name)) := by
    cases dialect <;> rfl
  have hindex : (if dialect = .mysql then table.indexes.map TableItem.index else []).filterMap
      (TableItem.keyObject? dialect table.name) =
        if dialect = .mysql then table.keyObjects dialect .index else [] := by
    split
    · exact keyObjects_map dialect table (fun _ => rfl) _
    · rfl
  have hforeign (key : ForeignKey) : (TableItem.foreignKey key).keyObject? dialect table.name =
      some (.declared dialect true table.name (.foreign, key.name)) := rfl
  unfold keyItems
  rw [List.filterMap_append, List.filterMap_append, List.filterMap_append, hprimary, hindex,
    keyObjects_map dialect table hunique, keyObjects_map dialect table hforeign]
  rfl

theorem keyObjects_indexes :
    (if dialect = .mysql then [] else table.indexes.map (Definition.createIndex false table.name)
      ).flatMap (Definition.keyObjects dialect) =
        if dialect = .mysql then [] else table.keyObjects dialect .index := by
  split
  · rfl
  · calc (table.indexes.map (Definition.createIndex false table.name)).flatMap
          (Definition.keyObjects dialect)
        = table.indexes.flatMap fun key => [⟨.index, table.name, key.name⟩] := List.flatMap_map ..
      _ = table.indexes.map fun key => ⟨.index, table.name, key.name⟩ := List.map_eq_flatMap.symm
      _ = table.keyObjects dialect .index := (List.map_map ..).symm

/-- The order differs: without indexes among its lines, a table has its indexes after its foreign
keys. -/
theorem keyObjects_definitions (columns : List ColumnDefinition) :
    ((table.definitions dialect columns).flatMap (Definition.keyObjects dialect)).Perm
      ((table.namedKeys dialect).map (KeyObject.declared dialect true table.name)) := by
  have hcolumns : (columns.map TableItem.column).filterMap
      (TableItem.keyObject? dialect table.name) = [] := by
    rw [List.filterMap_map]
    exact List.filterMap_eq_nil_iff.mpr fun _ _ => rfl
  have hnamed : (table.namedKeys dialect).map (KeyObject.declared dialect true table.name) =
      table.keyObjects dialect .primary ++ table.keyObjects dialect .unique ++
        table.keyObjects dialect .index ++ table.keyObjects dialect .foreign := by
    simp [namedKeys, keyObjects, Function.comp_def]
  rw [table.reads_definitions (Definition.keyObjects_comment dialect) columns, keyObjects_indexes,
    Definition.keyObjects, List.filterMap_append, hcolumns, List.nil_append, keyObjects_keyItems,
    hnamed]
  exact perm_inside_or_behind _ _ _

end CreateTable

namespace AlterOperation

/-- The key that an operation declares, with its name. -/
def namedKey? : AlterOperation → Option (KeyKind × String)
  | addAutoincrement _ key => some (.primary, key)
  | addKey kind key => some (kind, key.name)
  | addForeign key => some (.foreign, key.name)
  | autoincrement _ key => some (.primary, key)
  | _ => none

/-- The objects that an operation declares. -/
def keyObjects (dialect : Dialect) (table : String) (operation : AlterOperation) : List KeyObject :=
  operation.namedKey?.toList.map (KeyObject.declared dialect false table)

/-- Whether a plan declares these keys. -/
abbrev Declares (dialect : Dialect) (objects : List KeyObject) : List Definition → Prop :=
  Reads (Definition.keyObjects dialect) objects

variable (dialect : Dialect) (table : String)

theorem keyObjects_addKeyPlan (kind : KeyKind) (key : Key) :
    Yields (Declares dialect ((addKey kind key).keyObjects dialect table))
      (addKeyPlan dialect table kind key) := by
  cases kind with
  | foreign => cases dialect <;> exact .error
  | index => cases dialect <;> exact .ok rfl
  | unique => cases dialect <;> exact .ok rfl
  | primary =>
    cases dialect with
    | sqlite => exact .error
    | _ => exact .ok rfl

theorem keyObjects_modifyPlan (column : Column) :
    Yields (Declares dialect []) (modifyPlan dialect table column) := by
  refine (yields_modifyPlan table column).imp ?_
  rintro _ (⟨-, definition, -, rfl⟩ | ⟨-, type, -, rfl⟩ | ⟨-, type, -, rfl⟩)
  · rfl
  · cases column.options.default <;> rfl
  · cases column.options.default <;> rfl

theorem keyObjects_renamePlan (source target : String) (types : ColumnTypes) :
    Yields (Declares dialect []) (renamePlan dialect table source target types) := by
  refine (yields_renamePlan table source target types).imp ?_
  rintro _ (⟨type, -, rfl⟩ | rfl | rfl) <;> rfl

theorem keyObjects_dropKeyPlan (kind : KeyKind) (name : String) :
    Yields (Declares dialect []) (dropKeyPlan dialect table kind name) := by
  cases dialect <;> cases kind <;> first | exact .ok rfl | exact .error

theorem keyObjects_autoincrementPlan (column : Column) (key : String) :
    Yields (Declares dialect ((autoincrement column key).keyObjects dialect table))
      (autoincrementPlan dialect table column key) := by
  refine .after fun _ => ?_
  cases dialect with
  | mysql => exact .after fun definition => .ok rfl
  | postgres => exact .ok rfl
  | sqlite | sqlServer => exact .error

theorem keyObjects_plan (types : ColumnTypes) (operation : AlterOperation) :
    Yields (Declares dialect (operation.keyObjects dialect table))
      (operation.plan dialect table types) := by
  cases operation with
  | addColumn column =>
    refine .after fun definition => .ok ?_
    have hone : Declares dialect [] [.alterTable table [.addColumn definition]] := rfl
    exact hone.append_comments (Definition.keyObjects_comment dialect) dialect table column
  | addAutoincrement column key =>
    have hplan : Yields (Declares dialect ((addAutoincrement column key).keyObjects dialect table))
        (addAutoincrementPlan dialect table column key) := by
      refine .after fun definition => ?_
      split
      · exact .error
      · exact .ok rfl
    exact hplan.map fun _ h =>
      h.append_comments (Definition.keyObjects_comment dialect) dialect table column
  | modifyColumn column =>
    exact (keyObjects_modifyPlan dialect table column).map fun _ h =>
      h.append_comments (Definition.keyObjects_comment dialect) dialect table column
  | renameColumn source target => exact keyObjects_renamePlan dialect table source target types
  | dropColumn name => exact .ok rfl
  | addKey kind key => exact keyObjects_addKeyPlan dialect table kind key
  | addForeign key => exact (yields_addForeignPlan table key).imp fun _ h => h ▸ rfl
  | dropKey kind name => exact keyObjects_dropKeyPlan dialect table kind name
  | setDefault column value => cases dialect <;> first | exact .ok rfl | exact .error
  | dropDefault column => cases dialect <;> first | exact .ok rfl | exact .error
  | autoincrement column key => exact keyObjects_autoincrementPlan dialect table column key

end AlterOperation

namespace TableStatement

/-- The keys that a statement declares with names. -/
def namedKeys (dialect : Dialect) : TableStatement → List (KeyKind × String)
  | create table => table.namedKeys dialect
  | alter table _ => table.operations.filterMap AlterOperation.namedKey?

/-- The statements that a description compiles to declare its keys and no others. -/
theorem keyObjects_plan (dialect : Dialect) (s : TableStatement) :
    Yields (fun definitions => (definitions.flatMap (Definition.keyObjects dialect)).Perm
      ((s.namedKeys dialect).map (KeyObject.declared dialect s.creates s.tableName)))
      (s.plan dialect) := by
  cases s with
  | create table =>
    intro definitions h
    obtain ⟨columns, -, rfl⟩ := CreateTable.exists_of_plan_eq_ok h
    exact table.keyObjects_definitions dialect columns
  | alter table types =>
    intro definitions h
    have hread : definitions.flatMap (Definition.keyObjects dialect) =
        table.operations.flatMap (AlterOperation.keyObjects dialect table.name) :=
      AlterTable.reads_plan
        (fun operation _ => operation.keyObjects_plan dialect table.name types) definitions h
    rw [hread]
    unfold namedKeys
    dsimp only
    rw [List.filterMap_eq_flatMap_toList, List.map_flatMap]
    exact .refl _

/-- A statement declares the keys that its description names, each as one object, and the texts that
are sent are read as declaring them. If such a key can be dropped under its kind and name at all,
that is done by the statement that drops this object, unless the key is a unique key of a new table
in SQLite: there a unique key of an older table is an index, and it is indexes that are dropped. -/
theorem keys_dropped_iff {dialect : Dialect} {s : TableStatement} {statements : List Compiled}
    (h : s.compile dialect = .ok statements) :
    ∃ (definitions : List Definition) (sentences : List SchemaSentence),
      s.plan dialect = .ok definitions ∧
      statements = definitions.map (Definition.compile dialect) ∧
      statements.map (fun statement => SchemaSentence.ofText? dialect s.types statement.sql) =
        sentences.map some ∧
      sentences.flatMap (SchemaSentence.keyObjects dialect) =
        definitions.flatMap (Definition.keyObjects dialect) ∧
      (definitions.flatMap (Definition.keyObjects dialect)).Perm
        ((s.namedKeys dialect).map (KeyObject.declared dialect s.creates s.tableName)) ∧
      ∀ kind name, (kind, name) ∈ s.namedKeys dialect →
        ((KeyObject.declared dialect s.creates s.tableName (kind, name)).IsDroppedAs dialect kind ↔
          ¬(dialect = .sqlite ∧ kind = .unique ∧ s.creates = true)) ∧
        (kind.declaredSort dialect true = kind.declaredSort dialect false ↔
          ¬(dialect = .sqlite ∧ kind = .unique)) := by
  obtain ⟨definitions, hplan, rfl⟩ := compile_eq_ok_iff.mp h
  obtain ⟨sentences, hwritten, hread⟩ :=
    (s.allWritten_plan dialect definitions hplan).exists_sentences
  exact ⟨definitions, sentences, hplan, rfl, hread,
    flatMap_eq_of_forall₂ (fun _ _ h => h.keyObjects_eq) hwritten,
    s.keyObjects_plan dialect definitions hplan,
    fun kind name _ => ⟨KeyObject.isDroppedAs_declared dialect s.creates s.tableName kind name,
      kind.declaredSort_eq_iff dialect⟩⟩

/-- In MySQL a unique constraint is dropped as the index that it is. -/
theorem keys_dropped_of_unique :
    let s : TableStatement := .create
      { name := "t", columns := [⟨"c", .integer, {}⟩], uniqueKeys := [⟨"u", ["c"]⟩] }
    s.compile .mysql = .ok [.plain "CREATE TABLE t (\n    c INT,\n    CONSTRAINT u UNIQUE (c)\n)"] ∧
      (KeyObject.mk .index "t" "u").IsDroppedAs .mysql .unique ∧
      KeyObject.dropText? .mysql ⟨.index, "t", "u"⟩ = some "ALTER TABLE t DROP INDEX u" := by
  intro s
  have hcompile : s.compile .mysql =
      .ok [.plain "CREATE TABLE t (\n    c INT,\n    CONSTRAINT u UNIQUE (c)\n)"] := by rfl
  obtain ⟨_, _, _, _, _, _, _, hdropped⟩ := keys_dropped_iff hcompile
  have hnamed : (.unique, "u") ∈ s.namedKeys .mysql := by decide
  exact ⟨hcompile, (hdropped .unique "u" hnamed).1.mpr (by decide), by rfl⟩

/-- A unique key of a new table is a constraint in SQLite, where no constraint can be dropped. What
is sent to drop it drops an index, which it would be if it had been added later. -/
theorem unique_key_of_new_table_not_dropped :
    let s : TableStatement := .create
      { name := "t", columns := [⟨"c", .integer, {}⟩], uniqueKeys := [⟨"u", ["c"]⟩] }
    s.compile .sqlite =
        .ok [.plain "CREATE TABLE t (\n    c INTEGER,\n    CONSTRAINT u UNIQUE (c)\n)"] ∧
      (s.plan .sqlite).map (List.flatMap (Definition.keyObjects .sqlite)) =
        .ok [⟨.constraint .unique, "t", "u"⟩] ∧
      (SchemaSentence.ofText? .sqlite .empty
          "CREATE TABLE t (\n    c INTEGER,\n    CONSTRAINT u UNIQUE (c)\n)").map
        (SchemaSentence.keyObjects .sqlite) = some [⟨.constraint .unique, "t", "u"⟩] ∧
      AlterTable.compile .sqlite ⟨"t", [.addKey .unique ⟨"u", ["c"]⟩]⟩ .empty =
        .ok [.plain "CREATE UNIQUE INDEX u ON t (c)"] ∧
      AlterTable.compile .sqlite ⟨"t", [.dropKey .unique "u"]⟩ .empty =
        .ok [.plain "DROP INDEX u"] ∧
      ¬(KeyObject.mk (.constraint .unique) "t" "u").IsDroppedAs .sqlite .unique := by
  refine ⟨by rfl, by rfl, by decide +kernel, by rfl, by rfl, fun h => ?_⟩
  obtain ⟨_, htext, -⟩ := h .empty [.plain "DROP INDEX u"] (by rfl)
  exact nomatch htext

end TableStatement

end SqlDialects
