import SqlDialects.Proofs.Table.Handles
import SqlDialects.Proofs.Table.Keys
import SqlDialects.Proofs.Table.PrimaryKey

/-! The statements that change a table in SQLite, read off their texts, and the primary keys that
they declare. An operation comes to one statement there, if it can be carried out at all. -/

namespace SqlDialects

open Text.Reader Identifier

/-- A statement about an older table in SQLite as it is written. -/
inductive ChangeSentence where
  | addColumn (table : String) (column : WrittenColumn)
  | renameColumn (table source target : String)
  | dropColumn (table column : String)
  | dropIndex (name : String)
  /-- A statement that may be about a new table as well. -/
  | ofTable (sentence : TableSentence)
deriving DecidableEq, Repr

namespace ChangeSentence

def readRenaming (table : String) : Text.Reader ChangeSentence := do
  let source ← readName .sqlite
  expect " TO "
  return .renameColumn table source (← readName .sqlite)

/-- What stands behind the name of the table. -/
def actionReaders (table : String) : List (String × Text.Reader ChangeSentence) := [
  ("ADD COLUMN ", do return .addColumn table (← WrittenColumn.read .sqlite)),
  ("RENAME COLUMN ", readRenaming table),
  ("DROP COLUMN ", do return .dropColumn table (← readName .sqlite))]

def readChange : Text.Reader ChangeSentence := do
  let table ← readName .sqlite
  expect " "
  behind (actionReaders table)

def readers : List (String × Text.Reader ChangeSentence) := [
  ("ALTER TABLE ", readChange),
  ("DROP INDEX ", do return .dropIndex (← readName .sqlite))]

/-- The sentence that a statement is read as. -/
def ofText? (text : String) : Option ChangeSentence :=
  match (behind readers).readAll text.toList with
  | some sentence => some sentence
  | none => (TableSentence.ofText? .sqlite text).map .ofTable

/-- The primary keys that a statement declares. -/
def primaryKeys : ChangeSentence → List DeclaredKey
  | addColumn _ column => column.primaryKeys
  | ofTable sentence => sentence.primaryKeys
  | _ => []

theorem ofText?_of_append {text : String} (phrase : String) {rest : List Char}
    {reader : Text.Reader ChangeSentence} {sentence : ChangeSentence}
    (htext : text.toList = phrase.toList ++ rest) (hread : reader rest = some (sentence, []))
    (hfind : readers.find? (fun (phrase', _) =>
      phrase'.toList.isPrefixOf (phrase.toList ++ rest)) = some (phrase, reader)) :
    ofText? text = some sentence := by
  rw [ofText?, htext, readAll, StateT.run, behind_append hfind, hread]

/-- A change of a table by one action. -/
theorem ofText?_change (table : String) (action : AlterAction) (phrase : String)
    {rest : List Char} {reader : Text.Reader ChangeSentence} {sentence : ChangeSentence}
    (htext : (action.sql .sqlite).toList = phrase.toList ++ rest)
    (hread : reader rest = some (sentence, []))
    (hfind : (actionReaders table).find? (fun (phrase', _) =>
      phrase'.toList.isPrefixOf (phrase.toList ++ rest)) = some (phrase, reader)) :
    ofText? ((Definition.alterTable table [action]).sql .sqlite) = some sentence := by
  have hsql : ((Definition.alterTable table [action]).sql .sqlite).toList =
      "ALTER TABLE ".toList ++ ((quote .sqlite table).toList ++ (" ".toList ++
        (phrase.toList ++ rest))) := by
    have hone : (Definition.alterTable table [action]).sql .sqlite =
        "ALTER TABLE " ++ quote .sqlite table ++ " " ++ action.sql .sqlite := rfl
    simp only [hone, String.toList_append, List.append_assoc, htext]
  have hchange : readChange ((quote .sqlite table).toList ++ (" ".toList ++
      (phrase.toList ++ rest))) = some (sentence, []) := by
    rw [readChange, bind_of_eq (readName_quote table (endsPath_blank " " rfl _)),
      bind_of_eq (expect_append " " _), behind_append hfind, hread]
  exact ofText?_of_append "ALTER TABLE " hsql hchange rfl

theorem ofText?_addColumn (table : String) {definition : ColumnDefinition}
    {column : WrittenColumn} (hplain : column.IsPlain)
    (hdefinition : (definition.sql .sqlite).toList = column.toText .sqlite) :
    ofText? ((Definition.alterTable table [.addColumn definition]).sql .sqlite) =
      some (.addColumn table column) := by
  have htext : ((AlterAction.addColumn definition).sql .sqlite).toList =
      "ADD COLUMN ".toList ++ column.toText .sqlite := by
    rw [← hdefinition, ← String.toList_append]
    rfl
  have hcolumn : WrittenColumn.read .sqlite (column.toText .sqlite) = some (column, []) := by
    have hends : EndsLine [] := fun _ h => nomatch h
    have hread : WrittenColumn.read .sqlite (column.toText .sqlite ++ []) = some (column, []) :=
      WrittenColumn.read_toText hplain hends
    rwa [List.append_nil] at hread
  have hread : (do return ChangeSentence.addColumn table (← WrittenColumn.read .sqlite) :
      Text.Reader ChangeSentence) (column.toText .sqlite) = some (.addColumn table column, []) := by
    rw [bind_of_eq hcolumn]
    rfl
  exact ofText?_change table _ "ADD COLUMN " htext hread rfl

theorem ofText?_renameColumn (table source target : String) :
    ofText? ((Definition.alterTable table [.renameColumn source target]).sql .sqlite) =
      some (.renameColumn table source target) := by
  have htext : ((AlterAction.renameColumn source target).sql .sqlite).toList =
      "RENAME COLUMN ".toList ++ ((quote .sqlite source).toList ++ (" TO ".toList ++
        ((quote .sqlite target).toList ++ []))) := by
    have hsql : (AlterAction.renameColumn source target).sql .sqlite =
        "RENAME COLUMN " ++ quote .sqlite source ++ " TO " ++ quote .sqlite target := rfl
    simp only [hsql, String.toList_append, List.append_assoc, List.append_nil]
  have hread : readRenaming table ((quote .sqlite source).toList ++ (" TO ".toList ++
      ((quote .sqlite target).toList ++ []))) = some (.renameColumn table source target, []) := by
    rw [readRenaming, bind_of_eq (readName_quote source (endsPath_blank " TO " rfl _)),
      bind_of_eq (expect_append " TO " _), bind_of_eq (readName_quote target (endsPath_nil _))]
    rfl
  exact ofText?_change table _ "RENAME COLUMN " htext hread rfl

/-- A statement or an action that ends in a name. -/
theorem readLastName (name : String) (sentence : String → ChangeSentence) :
    (do return sentence (← readName .sqlite) : Text.Reader ChangeSentence)
      ((quote .sqlite name).toList ++ []) = some (sentence name, []) := by
  rw [bind_of_eq (readName_quote name (endsPath_nil _))]
  rfl

theorem ofText?_dropColumn (table column : String) :
    ofText? ((Definition.alterTable table [.dropColumn column]).sql .sqlite) =
      some (.dropColumn table column) := by
  have htext : ((AlterAction.dropColumn column).sql .sqlite).toList =
      "DROP COLUMN ".toList ++ ((quote .sqlite column).toList ++ []) := by
    rw [List.append_nil, ← String.toList_append]
    rfl
  exact ofText?_change table _ "DROP COLUMN " htext (readLastName column _) rfl

theorem ofText?_dropIndex (name table : String) :
    ofText? ((Definition.dropIndex name table).sql .sqlite) = some (.dropIndex name) := by
  have htext : ((Definition.dropIndex name table).sql .sqlite).toList =
      "DROP INDEX ".toList ++ ((quote .sqlite name).toList ++ []) := by
    rw [Definition.sql_dropIndex (by decide), String.toList_append, List.append_nil]
  exact ofText?_of_append "DROP INDEX " htext (readLastName name _) rfl

theorem ofText?_createIndex (unique : Bool) (table : String) (key : Key) :
    ofText? ((Definition.createIndex unique table key).sql .sqlite) =
      some (.ofTable (.createIndex unique table key)) := by
  obtain ⟨rest, htext⟩ : ∃ rest, ((Definition.createIndex unique table key).sql .sqlite).toList =
      "CREATE ".toList ++ rest := by
    have hword : (if unique then "CREATE UNIQUE INDEX " else "CREATE INDEX ").toList =
        "CREATE ".toList ++ (if unique then "UNIQUE INDEX " else "INDEX ").toList := by
      cases unique <;> rfl
    have hsql : (Definition.createIndex unique table key).sql .sqlite =
        (if unique then "CREATE UNIQUE INDEX " else "CREATE INDEX ") ++ quote .sqlite key.name ++
          " ON " ++ quote .sqlite table ++ " (" ++ quoteList .sqlite key.columns ++ ")" := rfl
    simp only [hsql, String.toList_append, hword, List.append_assoc]
    exact ⟨_, rfl⟩
  have hfind : readers.find? (fun (phrase, _) =>
      phrase.toList.isPrefixOf ("CREATE ".toList ++ rest)) = none := rfl
  have hmissed : (behind readers).readAll
      ((Definition.createIndex unique table key).sql .sqlite).toList = none := by
    simp only [readAll, StateT.run, htext, behind, hfind]
  rw [ofText?, hmissed, TableSentence.ofText?_createIndex]
  rfl

/-- The primary keys that are read off a statement. -/
def keysOfText? (text : String) : Option (List DeclaredKey) := (ofText? text).map primaryKeys

end ChangeSentence

namespace AlterOperation

/-- The primary key that the operation lets its column declare. -/
def inlineKeys : AlterOperation → List DeclaredKey
  | addColumn column => column.inlineKeys .sqlite
  | _ => []

/-- Whether a plan is one statement, off which these primary keys are read. -/
abbrev ReadsAsOne (keys : List DeclaredKey) : List Definition → Prop :=
  Reads (fun definition => [ChangeSentence.keysOfText? (definition.sql .sqlite)]) [some keys]

theorem readsAsOne_of_eq {definition : Definition} {sentence : ChangeSentence}
    (h : ChangeSentence.ofText? (definition.sql .sqlite) = some sentence) :
    ReadsAsOne sentence.primaryKeys [definition] := by
  unfold ReadsAsOne Reads
  rw [List.flatMap_singleton, ChangeSentence.keysOfText?, h, Option.map_some]

variable (table : String)

/-- An operation that can be carried out in SQLite is one statement. It declares a primary key only
where a column is added that is auto-incrementing. -/
theorem readsAsOne_plan (types : ColumnTypes) (operation : AlterOperation) :
    Yields (ReadsAsOne operation.inlineKeys) (operation.plan .sqlite table types) := by
  cases operation with
  | addColumn column =>
    have hcomments : column.comments .sqlite table = [] := by
      unfold Column.comments
      cases column.options.description <;> rfl
    refine (column.exists_written .sqlite).map fun _ ⟨written, hwritten, hdeclares⟩ => ?_
    rw [hcomments, inlineKeys, ← hdeclares.primaryKeys_eq]
    exact readsAsOne_of_eq
      (ChangeSentence.ofText?_addColumn table hwritten.isPlain hwritten.toText_eq)
  | renameColumn source target =>
    exact .ok (readsAsOne_of_eq (ChangeSentence.ofText?_renameColumn table source target))
  | dropColumn name => exact .ok (readsAsOne_of_eq (ChangeSentence.ofText?_dropColumn table name))
  | addKey kind key =>
    cases kind with
    | unique => exact .ok (readsAsOne_of_eq (ChangeSentence.ofText?_createIndex true table key))
    | index => exact .ok (readsAsOne_of_eq (ChangeSentence.ofText?_createIndex false table key))
    | primary | foreign => exact .error
  | dropKey kind name =>
    cases kind with
    | unique | index =>
      exact .ok (readsAsOne_of_eq (ChangeSentence.ofText?_dropIndex name table))
    | primary | foreign => exact .error
  | addAutoincrement | autoincrement =>
    exact fun _ h => (plan_sqlite_of_counterKey? rfl table types _ h).elim
  | modifyColumn | addForeign | setDefault | dropDefault => exact .error

/-- The operations that add a primary key or a foreign key, in any way, are refused. -/
theorem namedKey?_of_plan_sqlite (types : ColumnTypes) (operation : AlterOperation) :
    Yields (fun _ => ∀ key ∈ operation.namedKey?, key.1 = .unique ∨ key.1 = .index)
      (operation.plan .sqlite table types) := by
  cases operation with
  | addKey kind key =>
    cases kind with
    | unique => exact .ok fun _ h => .inl (congrArg Prod.fst (Option.some.inj h)).symm
    | index => exact .ok fun _ h => .inr (congrArg Prod.fst (Option.some.inj h)).symm
    | primary | foreign => exact .error
  | addForeign key => exact .error
  | addAutoincrement | autoincrement =>
    exact fun _ h => (plan_sqlite_of_counterKey? rfl table types _ h).elim
  | _ => exact fun _ _ key hkey => nomatch hkey

theorem inlineKeys_eq_nil_iff {operation : AlterOperation} :
    operation.inlineKeys = [] ↔
      ∀ column, operation = .addColumn column → column.options.autoincrement = false := by
  cases operation with
  | addColumn column =>
    rw [inlineKeys, Column.inlineKeys]
    cases hincrement : column.options.autoincrement <;> simp [hincrement]
  | _ =>
    refine iff_of_true rfl fun column h => ?_
    cases h

end AlterOperation

/-- No calls describe a column that is added as auto-incrementing without its key. -/
theorem AlterBuilder.autoincrement_of_addColumn {name : String} {calls : List AlterCall}
    (hfresh : ∀ call ∈ calls, call.IsFresh) {column : Column}
    (h : .addColumn column ∈ (run name calls).operations) :
    column.options.autoincrement = false := by
  have hmarked : (run name calls).AllMarked :=
    AllMarked.foldl (fun _ h => absurd h List.not_mem_nil) hfresh
  have hiff := (hmarked _ h).autoincrement_iff column rfl
  exact Bool.eq_false_iff.mpr fun htrue => nomatch hiff.mp htrue

namespace AlterTable

/-- A change of a table in SQLite comes to one statement for each operation. A statement declares a
primary key exactly if its operation adds a column that is auto-incrementing already; whatever else
adds a primary key is refused. Where all changes are described by calls, there is no such column. -/
theorem primary_keys_of_added_columns {alter : AlterTable} {types : ColumnTypes}
    {statements : List Compiled} (h : alter.compile .sqlite types = .ok statements) :
    statements.map (fun statement => ChangeSentence.keysOfText? statement.sql) =
      alter.operations.map (fun operation => some operation.inlineKeys) ∧
    ((∀ statement ∈ statements, ChangeSentence.keysOfText? statement.sql = some []) ↔
      ∀ column, .addColumn column ∈ alter.operations → column.options.autoincrement = false) ∧
    (∀ operation ∈ alter.operations, ∀ key ∈ operation.namedKey?,
      key.1 = .unique ∨ key.1 = .index) ∧
    (∀ name calls, (∀ call ∈ calls, AlterCall.IsFresh call) →
      alter = (AlterBuilder.run name calls).table →
        ∀ statement ∈ statements, ChangeSentence.keysOfText? statement.sql = some []) := by
  obtain ⟨definitions, hplan, rfl⟩ := map_eq_ok_iff.mp h
  obtain ⟨parts, hparts, -⟩ := map_eq_ok_iff.mp hplan
  have hread : (definitions.map (Definition.compile .sqlite)).map
      (fun statement => ChangeSentence.keysOfText? statement.sql) =
        alter.operations.map (fun operation => some operation.inlineKeys) := by
    have hreads := reads_plan
      (fun operation _ => operation.readsAsOne_plan alter.name types) definitions hplan
    rw [Reads, ← List.map_eq_flatMap, ← List.map_eq_flatMap] at hreads
    rw [List.map_map]
    exact hreads
  have hnone : (∀ statement ∈ definitions.map (Definition.compile .sqlite),
      ChangeSentence.keysOfText? statement.sql = some []) ↔
        ∀ column, .addColumn column ∈ alter.operations → column.options.autoincrement = false := by
    have hall := List.forall_mem_map (l := definitions.map (Definition.compile .sqlite))
      (f := fun statement => ChangeSentence.keysOfText? statement.sql) (P := (· = some []))
    rw [← hall, hread, List.forall_mem_map]
    simp only [Option.some.injEq, AlterOperation.inlineKeys_eq_nil_iff]
    exact ⟨fun h column hmem => h _ hmem column rfl, fun h operation hmem column heq =>
      h column (heq ▸ hmem)⟩
  refine ⟨hread, hnone, fun operation hmem => ?_, ?_⟩
  · obtain ⟨part, -, hpart⟩ := exists_of_mapM_eq_ok hparts hmem
    exact operation.namedKey?_of_plan_sqlite alter.name types part hpart
  · rintro name calls hfresh rfl
    exact hnone.mpr fun column => AlterBuilder.autoincrement_of_addColumn hfresh

/-- Words in a default declare nothing. -/
theorem primary_keys_of_added_columns_of_text :
    let alter : AlterTable := ⟨"t", [
      .addColumn ⟨"note", .text, { default := some (.string "x PRIMARY KEY AUTOINCREMENT") }⟩,
      .renameColumn "a" "b", .addKey .unique ⟨"u", ["b"]⟩]⟩
    ∃ statements, alter.compile .sqlite .empty = .ok statements ∧
      statements.map Compiled.sql = [
        "ALTER TABLE t ADD COLUMN note TEXT DEFAULT 'x PRIMARY KEY AUTOINCREMENT'",
        "ALTER TABLE t RENAME COLUMN a TO b", "CREATE UNIQUE INDEX u ON t (b)"] ∧
      ∀ statement ∈ statements, ChangeSentence.keysOfText? statement.sql = some [] := by
  intro alter
  obtain ⟨statements, hcompile, hsql⟩ : ∃ statements, alter.compile .sqlite .empty =
      .ok statements ∧ statements.map Compiled.sql = [
        "ALTER TABLE t ADD COLUMN note TEXT DEFAULT 'x PRIMARY KEY AUTOINCREMENT'",
        "ALTER TABLE t RENAME COLUMN a TO b", "CREATE UNIQUE INDEX u ON t (b)"] :=
    ⟨_, rfl, by decide +kernel⟩
  refine ⟨statements, hcompile, hsql, (primary_keys_of_added_columns hcompile).2.1.mpr ?_⟩
  intro column hmem
  have hcolumn : column = ⟨"note", .text,
      { default := some (.string "x PRIMARY KEY AUTOINCREMENT") }⟩ := by
    simpa [alter] using hmem
  rw [hcolumn]

/-- A column that is described as auto-incrementing and then added is declared as the primary key of
a table that exists. The operation for adding such a column is refused. -/
theorem counter_added_as_column :
    compile .sqlite ⟨"t", [.addColumn ⟨"a", .integer, { autoincrement := true }⟩]⟩ .empty =
        .ok [.plain "ALTER TABLE t ADD COLUMN a INTEGER PRIMARY KEY AUTOINCREMENT"] ∧
      ChangeSentence.keysOfText? "ALTER TABLE t ADD COLUMN a INTEGER PRIMARY KEY AUTOINCREMENT" =
        some [⟨["a"], true⟩] ∧
      (compile .sqlite ⟨"t", [.addAutoincrement ⟨"a", .integer, { autoincrement := true }⟩
          "t_pk_a"]⟩ .empty = .error (.unsupported .sqlite .addAutoincrementColumn)) :=
  ⟨by rfl, by decide +kernel, by rfl⟩

end AlterTable

end SqlDialects
