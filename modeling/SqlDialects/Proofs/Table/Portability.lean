import SqlDialects.Proofs.Result
import SqlDialects.Table.Plan

/-! Which descriptions of tables can be created. Three of the dialects accept exactly the same
descriptions, and the fourth asks for one thing more, which is about the primary key. -/

namespace SqlDialects

/-- The size classes that columns of a type come in. -/
def ColumnType.sizes : ColumnType → List SizeClass
  | float => [.small, .normal, .big]
  | double | decimal | boolean | string | fixed => [.normal]
  | integer | binary | text | time | timestamp | date | dateTime =>
    [.tiny, .small, .normal, .medium, .big]

structure Column.IsPortable (column : Column) : Prop where
  type_of_autoincrement : column.options.autoincrement → column.type = .integer
  size_mem : column.size ∈ column.type.sizes

/-- A foreign key that says what it refers to. -/
structure ForeignKey.IsComplete (key : ForeignKey) : Prop where
  refTable_ne : key.refTable ≠ ""
  refColumns_ne : key.refColumns ≠ []
  length_eq : key.refColumns.length = key.columns.length

namespace CreateTable

/-- A description whose columns and foreign keys can be written. -/
structure IsPortable (table : CreateTable) : Prop where
  columns_ne : table.columns ≠ []
  columns : ∀ column ∈ table.columns, column.IsPortable
  foreignKeys : ∀ key ∈ table.foreignKeys, key.IsComplete

/-- Every auto-incrementing column is all of the primary key. -/
def AutoincrementsAreSoleKeys (table : CreateTable) : Prop :=
  ∀ column ∈ table.columns, column.options.autoincrement →
    ∃ key, table.primaryKey = some key ∧ key.columns = [column.name]

end CreateTable

theorem map_isOk_iff {f : α → β} {x : Except ε α} :
    (∃ b, x.map f = .ok b) ↔ ∃ a, x = .ok a := by
  cases x with
  | error e => exact iff_of_false (fun ⟨_, h⟩ => by cases h) fun ⟨_, h⟩ => by cases h
  | ok a => exact iff_of_true ⟨f a, rfl⟩ ⟨a, rfl⟩

theorem forM_eq_ok_iff {f : α → Except ε Unit} {items : List α} :
    items.forM f = .ok () ↔ ∀ item ∈ items, f item = .ok () := by
  induction items with
  | nil => exact iff_of_true rfl fun item h => absurd h List.not_mem_nil
  | cons item rest ih =>
    rw [List.forall_mem_cons, ← ih]
    constructor
    · intro h
      obtain ⟨_, hitem, hrest⟩ := bind_eq_ok_iff.mp h
      exact ⟨hitem, hrest⟩
    · rintro ⟨hitem, hrest⟩
      exact bind_eq_ok_iff.mpr ⟨(), hitem, hrest⟩

namespace Column

variable {dialect : Dialect} {column : Column}

theorem oneSize_isOk_iff {type : String} :
    (∃ text, column.oneSize dialect type = .ok text) ↔ column.size = .normal := by
  unfold oneSize
  split
  case isTrue h => exact iff_of_true ⟨type, rfl⟩ h
  case isFalse h => exact iff_of_false (fun ⟨_, htext⟩ => by cases htext) h

/-- The dialects spell types differently but know the same sizes of them. -/
theorem nativeType_isOk_iff :
    (∃ text, column.nativeType dialect = .ok text) ↔ column.size ∈ column.type.sizes := by
  cases dialect <;> cases htype : column.type <;>
    simp only [nativeType, map_isOk_iff, mysqlType, postgresType, sqliteType, sqlServerType, htype,
      oneSize_isOk_iff, ColumnType.sizes, List.mem_singleton] <;>
    cases column.size <;> simp
  -- What is left are the integers of the two dialects that have types of their own for
  -- auto-incrementing ones.
  all_goals cases column.options.autoincrement <;> simp

theorem autoincrementMark_eq_primaryKey_iff :
    autoincrementMark dialect = .primaryKey ↔ dialect = .sqlite := by
  cases dialect <;> simp [autoincrementMark]

theorem requireInteger_isOk_iff : column.requireInteger = .ok () ↔ column.type = .integer := by
  unfold requireInteger
  split
  case isTrue h => exact iff_of_true rfl h
  case isFalse h => exact iff_of_false (fun hok => by cases hok) h

theorem definition_isOk_iff :
    (∃ definition, column.definition dialect = .ok definition) ↔ column.IsPortable := by
  have htype : (∃ type, column.nativeType dialect = .ok type) ↔ column.size ∈ column.type.sizes :=
    column.nativeType_isOk_iff
  constructor
  · rintro ⟨definition, h⟩
    unfold Column.definition at h
    cases hincrement : column.options.autoincrement with
    | false =>
      rw [if_neg (by simp [hincrement])] at h
      obtain ⟨type, hok, -⟩ := bind_eq_ok_iff.mp h
      exact ⟨by simp [hincrement], htype.mp ⟨type, hok⟩⟩
    | true =>
      rw [if_pos hincrement] at h
      obtain ⟨_, hinteger, h⟩ := bind_eq_ok_iff.mp h
      obtain ⟨type, hok, -⟩ := bind_eq_ok_iff.mp h
      exact ⟨fun _ => requireInteger_isOk_iff.mp hinteger, htype.mp ⟨type, hok⟩⟩
  · rintro ⟨hinteger, hsize⟩
    obtain ⟨type, hok⟩ := htype.mpr hsize
    unfold Column.definition
    split
    case isTrue h =>
      rw [requireInteger_isOk_iff.mpr (hinteger h), hok]
      exact ⟨_, rfl⟩
    case isFalse =>
      rw [hok]
      exact ⟨_, rfl⟩

end Column

theorem ForeignKey.check_isOk_iff {key : ForeignKey} : key.check = .ok () ↔ key.IsComplete := by
  unfold check
  split
  case isTrue h =>
    refine iff_of_false (fun hok => by cases hok) fun hcomplete => ?_
    exact h.elim hcomplete.refTable_ne fun hnil =>
      hcomplete.refColumns_ne (List.isEmpty_iff.mp hnil)
  case isFalse h =>
    obtain ⟨htable, hcolumns⟩ := not_or.mp h
    split
    case isTrue hlength => exact iff_of_false (fun hok => by cases hok) fun h => hlength h.length_eq
    case isFalse hlength =>
      exact iff_of_true rfl
        ⟨htable, fun hnil => hcolumns (List.isEmpty_iff.mpr hnil), Decidable.not_not.mp hlength⟩

namespace CreateTable

variable {dialect : Dialect} {table : CreateTable}

theorem isSoleKey_iff {name : String} :
    table.isSoleKey name ↔ ∃ key, table.primaryKey = some key ∧ key.columns = [name] := by
  cases hkey : table.primaryKey <;> simp [isSoleKey, hkey]

theorem checkMarks_isOk_iff :
    table.checkMarks dialect = .ok () ↔ (dialect = .sqlite → table.AutoincrementsAreSoleKeys) := by
  have hmark : Column.autoincrementMark dialect = .primaryKey ↔ dialect = .sqlite :=
    Column.autoincrementMark_eq_primaryKey_iff
  unfold checkMarks
  split
  case isFalse h => exact iff_of_true rfl fun hdialect => absurd (hmark.mpr hdialect) h
  case isTrue h =>
    have hsole : table.AutoincrementsAreSoleKeys ↔
        table.columns.find? (fun c => c.options.autoincrement && !table.isSoleKey c.name) =
          none := by
      simp [AutoincrementsAreSoleKeys, isSoleKey_iff]
    rw [hsole]
    split
    case h_1 column hfound => simp [hfound, hmark.mp h]
    case h_2 hnone => simp [hnone]

theorem plan_isOk_iff :
    (∃ definitions, table.plan dialect = .ok definitions) ↔
      table.IsPortable ∧ (dialect = .sqlite → table.AutoincrementsAreSoleKeys) := by
  rw [← checkMarks_isOk_iff]
  unfold plan
  cases hempty : table.columns.isEmpty with
  | true =>
    refine iff_of_false (fun ⟨_, h⟩ => by cases h) fun ⟨hportable, _⟩ => ?_
    exact hportable.columns_ne (List.isEmpty_iff.mp hempty)
  | false =>
    have hne : table.columns ≠ [] := fun h => by simp [h] at hempty
    constructor
    · rintro ⟨definitions, h⟩
      obtain ⟨columns, hcolumns, h⟩ := bind_eq_ok_iff.mp h
      obtain ⟨_, hmarks, h⟩ := bind_eq_ok_iff.mp h
      obtain ⟨_, hkeys, -⟩ := bind_eq_ok_iff.mp h
      refine ⟨⟨hne, fun column hcolumn => ?_, fun key hkey => ?_⟩, hmarks⟩
      · exact Column.definition_isOk_iff.mp (mapM_isOk_iff.mp ⟨columns, hcolumns⟩ column hcolumn)
      · exact ForeignKey.check_isOk_iff.mp (forM_eq_ok_iff.mp hkeys key hkey)
    · rintro ⟨⟨-, hportable, hcomplete⟩, hmarks⟩
      obtain ⟨columns, hcolumns⟩ : ∃ columns, table.columns.mapM (Column.definition dialect) =
          .ok columns :=
        mapM_isOk_iff.mpr fun column hcolumn =>
          Column.definition_isOk_iff.mpr (hportable column hcolumn)
      have hkeys : table.foreignKeys.forM ForeignKey.check = .ok () :=
        forM_eq_ok_iff.mpr fun key hkey => ForeignKey.check_isOk_iff.mpr (hcomplete key hkey)
      rw [hcolumns, hmarks, hkeys]
      exact ⟨_, rfl⟩

/-- The same descriptions can be created in three of the dialects: those with columns, all of them
in sizes that their types have, integers where they are auto-incrementing, and with complete foreign
keys. The fourth dialect accepts those of them in which each auto-incrementing column is the only
column of the primary key. -/
theorem compiles_iff_portable (table : CreateTable) :
    ((∃ statements, table.compile .mysql = .ok statements) ↔ table.IsPortable) ∧
    ((∃ statements, table.compile .postgres = .ok statements) ↔ table.IsPortable) ∧
    ((∃ statements, table.compile .sqlServer = .ok statements) ↔ table.IsPortable) ∧
    ((∃ statements, table.compile .sqlite = .ok statements) ↔
      table.IsPortable ∧ table.AutoincrementsAreSoleKeys) := by
  have hcompile (dialect : Dialect) : (∃ statements, table.compile dialect = .ok statements) ↔
      table.IsPortable ∧ (dialect = .sqlite → table.AutoincrementsAreSoleKeys) := by
    have hmap : table.compile dialect =
        (table.plan dialect).map (List.map (Definition.compile dialect)) :=
      bind_pure_comp _ (table.plan dialect)
    rw [hmap, map_isOk_iff, plan_isOk_iff]
  simp [hcompile]

end CreateTable

end SqlDialects
