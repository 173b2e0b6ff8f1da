import SqlDialects.Proofs.Table.Creation

/-! The primary key of a new table. It is a constraint among the lines of the table, or a clause of
the one column that it consists of; what is counted here are both of them, in all statements. -/

namespace SqlDialects

/-- A primary key as it is declared, by a constraint or inline by a column. -/
structure DeclaredKey where
  columns : List String
  inline : Bool
deriving DecidableEq, Repr

def WrittenColumn.primaryKeys (written : WrittenColumn) : List DeclaredKey :=
  (written.clauses.filter (· = .primaryKeyAutoincrement)).map fun _ => ⟨[written.name], true⟩

def TableLine.primaryKeys : TableLine → List DeclaredKey
  | column written => written.primaryKeys
  | primaryKey key => [⟨key.columns, false⟩]
  | _ => []

/-- The primary keys that a statement declares. -/
def TableSentence.primaryKeys : TableSentence → List DeclaredKey
  | createTable _ lines _ => lines.flatMap TableLine.primaryKeys
  | _ => []

/-- The primary key that an auto-incrementing column declares where its mark does so. -/
def Column.inlineKeys (dialect : Dialect) (column : Column) : List DeclaredKey :=
  if dialect = .sqlite ∧ column.options.autoincrement then [⟨[column.name], true⟩] else []

/-- Names that are distinct and all the same are one name. -/
theorem eq_singleton_of_nodup {names : List α} {name : α} (hnodup : names.Nodup)
    (hsame : ∀ other ∈ names, other = name) (hmem : name ∈ names) : names = [name] := by
  have hreplicate := List.eq_replicate_of_mem hsame
  have hlength : names.length ≤ 1 := List.nodup_replicate.mp (hreplicate ▸ hnodup)
  have hpos : 0 < names.length := List.length_pos_of_mem hmem
  rw [hreplicate, show names.length = 1 by omega]
  rfl

section

variable {dialect : Dialect}

theorem WrittenColumn.Declares.primaryKeys_eq {written : WrittenColumn} {column : Column}
    (h : written.Declares dialect column) : written.primaryKeys = column.inlineKeys dialect := by
  have hnull : (if column.options.nullable then [] else [.notNull]).filter
      (· = ColumnPart.primaryKeyAutoincrement) = [] := by
    cases column.options.nullable <;> rfl
  have hdefault : (column.options.default.toList.map fun value =>
      ColumnPart.default (value.written dialect)).filter
        (· = ColumnPart.primaryKeyAutoincrement) = [] := by
    cases column.options.default <;> rfl
  have hcomment : (if dialect = .mysql then
      column.options.description.toList.map fun text => ColumnPart.comment text.toList
      else []).filter (· = ColumnPart.primaryKeyAutoincrement) = [] := by
    split
    · cases column.options.description <;> rfl
    · rfl
  rw [primaryKeys, h.clauses_eq, h.name_eq, Column.clauses, List.filter_append, List.filter_append,
    List.filter_append, hnull, hdefault, hcomment, Column.inlineKeys]
  cases column.options.autoincrement <;> cases dialect <;> rfl

theorem flatMap_primaryKeys {written : List WrittenColumn} {columns : List Column}
    (h : List.Forall₂ (WrittenColumn.Declares dialect) written columns) :
    written.flatMap WrittenColumn.primaryKeys = columns.flatMap (Column.inlineKeys dialect) := by
  induction h with
  | nil => rfl
  | cons hfirst _ ih => rw [List.flatMap_cons, List.flatMap_cons, hfirst.primaryKeys_eq, ih]

end

namespace CreateTable

/-- Whether the key consists of one column, which is auto-incrementing. -/
def IsCounter (table : CreateTable) (key : Key) : Prop :=
  ∃ column ∈ table.columns, column.options.autoincrement ∧ key.columns = [column.name]

instance (table : CreateTable) (key : Key) : Decidable (table.IsCounter key) :=
  inferInstanceAs (Decidable (∃ column ∈ table.columns, _))

variable {dialect : Dialect} {table : CreateTable}

theorem keyIsInline_iff :
    table.keyIsInline dialect ↔
      dialect = .sqlite ∧ ∃ key, table.primaryKey = some key ∧ table.IsCounter key := by
  simp only [keyIsInline, Bool.and_eq_true, decide_eq_true_eq,
    Column.autoincrementMark_eq_primaryKey_iff, List.any_eq_true, isSoleKey_iff]
  refine and_congr_right fun _ => ⟨?_, ?_⟩
  · rintro ⟨column, hmem, hincrement, key, hkey, hcolumns⟩
    exact ⟨key, hkey, column, hmem, hincrement, hcolumns⟩
  · rintro ⟨key, hkey, column, hmem, hincrement, hcolumns⟩
    exact ⟨column, hmem, hincrement, key, hkey, hcolumns⟩

theorem flatMap_inlineKeys_sqlite (columns : List Column) :
    columns.flatMap (Column.inlineKeys .sqlite) =
      ((columns.filter fun column => column.options.autoincrement).map Column.name).map
        fun name => ⟨[name], true⟩ := by
  induction columns with
  | nil => rfl
  | cons column columns ih =>
    rw [List.flatMap_cons, ih, Column.inlineKeys]
    cases hincrement : column.options.autoincrement <;> simp [hincrement]

/-- All auto-incrementing columns are the primary key, so there is one of them at most. -/
theorem inlineKeys_columns (hnames : (table.columns.map Column.name).Nodup)
    (hmarks : dialect = .sqlite → table.AutoincrementsAreSoleKeys) :
    table.columns.flatMap (Column.inlineKeys dialect) =
      if table.keyIsInline dialect then table.primaryKey.toList.map fun key => ⟨key.columns, true⟩
      else [] := by
  split
  case isTrue hinline =>
    obtain ⟨rfl, key, hkey, column, hmem, hincrement, hcolumns⟩ := keyIsInline_iff.mp hinline
    have hnodup : ((table.columns.filter fun column =>
        column.options.autoincrement).map Column.name).Nodup :=
      hnames.sublist (List.filter_sublist.map Column.name)
    have hsame : ∀ name ∈ (table.columns.filter fun column =>
        column.options.autoincrement).map Column.name, name = column.name := by
      intro name hname
      obtain ⟨other, hother, rfl⟩ := List.mem_map.mp hname
      obtain ⟨hother, htrue⟩ := List.mem_filter.mp hother
      obtain ⟨key', hkey', hcolumns'⟩ := hmarks rfl other hother htrue
      cases hkey.symm.trans hkey'
      exact (List.cons.inj (hcolumns'.symm.trans hcolumns)).1
    have hone := eq_singleton_of_nodup hnodup hsame
      (List.mem_map.mpr ⟨column, List.mem_filter.mpr ⟨hmem, hincrement⟩, rfl⟩)
    rw [flatMap_inlineKeys_sqlite, hone, hkey, Option.toList_some, List.map_singleton,
      List.map_singleton, hcolumns]
  case isFalse hinline =>
    refine List.flatMap_eq_nil_iff.mpr fun column hmem => ?_
    rw [Column.inlineKeys, if_neg]
    rintro ⟨hdialect, hincrement⟩
    obtain ⟨key, hkey, hcolumns⟩ := hmarks hdialect column hmem hincrement
    exact hinline (keyIsInline_iff.mpr ⟨hdialect, key, hkey, column, hmem, hincrement, hcolumns⟩)

theorem primaryKeys_keyLines (dialect : Dialect) (table : CreateTable) :
    (table.keyLines dialect).flatMap TableLine.primaryKeys =
      if table.keyIsInline dialect then []
      else table.primaryKey.toList.map fun key => ⟨key.columns, false⟩ := by
  have hnone {α : Type} (line : α → TableLine) (h : ∀ key, (line key).primaryKeys = [])
      (keys : List α) : (keys.map line).flatMap TableLine.primaryKeys = [] := by
    rw [List.flatMap_map]
    exact List.flatMap_eq_nil_iff.mpr fun key _ => h key
  have hprimary : (table.primaryKey.toList.map .primaryKey).flatMap TableLine.primaryKeys =
      table.primaryKey.toList.map fun key => ⟨key.columns, false⟩ := by
    cases table.primaryKey <;> rfl
  have hindexes : (if dialect = .mysql then table.indexes.map .index else []).flatMap
      TableLine.primaryKeys = [] := by
    split
    · exact hnone .index (fun _ => rfl) _
    · rfl
  rw [keyLines, List.flatMap_append, List.flatMap_append, List.flatMap_append, hindexes,
    hnone .uniqueKey (fun _ => rfl), hnone .foreignKey (fun _ => rfl), List.append_nil,
    List.append_nil, List.append_nil]
  split
  · rfl
  · exact hprimary

theorem primaryKeys_otherSentences (dialect : Dialect) (table : CreateTable) :
    (table.indexSentences dialect ++ table.commentSentences dialect).flatMap
      TableSentence.primaryKeys = [] := by
  unfold indexSentences commentSentences
  rw [List.flatMap_append]
  split <;> split <;> simp [List.flatMap_map, TableSentence.primaryKeys]

/-- The primary key of a new table is declared once, with its columns in order, and by nothing but
the statement that creates the table. Its column declares it inline exactly in SQLite if it has one
column that is auto-incrementing. -/
theorem primary_key_declared_once {statements : List Compiled}
    (hnames : (table.columns.map Column.name).Nodup)
    (h : table.compile dialect = .ok statements) :
    ∃ lines options others,
      statements.map (fun statement => TableSentence.ofText? dialect statement.sql) =
        (.createTable table.name lines options :: others).map some ∧
      lines.flatMap TableLine.primaryKeys = table.primaryKey.toList.map (fun key =>
        ⟨key.columns, dialect = .sqlite ∧ table.IsCounter key⟩) ∧
      others.flatMap TableSentence.primaryKeys = [] := by
  obtain ⟨written, options, hdeclares, hread⟩ := exists_sentences h
  obtain ⟨definitions, hplan, -⟩ := map_eq_ok_iff.mp h
  obtain ⟨-, hmarks⟩ := plan_isOk_iff.mp ⟨_, hplan⟩
  refine ⟨_, options, _, hread, ?_, ?_⟩
  · rw [List.flatMap_append, List.flatMap_map]
    show written.flatMap WrittenColumn.primaryKeys ++ _ = _
    rw [flatMap_primaryKeys hdeclares, inlineKeys_columns hnames hmarks, primaryKeys_keyLines]
    cases hkey : table.primaryKey with
    | none => split <;> rfl
    | some key =>
      have hinline : table.keyIsInline dialect ↔ dialect = .sqlite ∧ table.IsCounter key := by
        rw [keyIsInline_iff, hkey]
        simp
      by_cases hcounter : dialect = .sqlite ∧ table.IsCounter key
      · rw [if_pos (hinline.mpr hcounter), if_pos (hinline.mpr hcounter)]
        simp only [Option.toList_some, List.map_singleton, List.append_nil,
          decide_eq_true hcounter]
      · rw [if_neg (hinline.not.mpr hcounter), if_neg (hinline.not.mpr hcounter)]
        simp only [Option.toList_some, List.map_singleton, List.nil_append,
          decide_eq_false hcounter]
  · exact table.primaryKeys_otherSentences dialect

/-- An auto-incrementing column is the primary key in SQLite without a constraint. -/
theorem primary_key_declared_once_of_counter :
    let table : CreateTable :=
      { name := "t"
        columns := [⟨"a", .integer, { nullable := false, autoincrement := true }⟩, ⟨"b", .text, {}⟩]
        primaryKey := some ⟨"t_pk_a", ["a"]⟩ }
    (table.columns.map Column.name).Nodup ∧ ∃ statements lines options,
      table.compile .sqlite = .ok statements ∧
      statements.map Compiled.sql =
        ["CREATE TABLE t (\n    a INTEGER PRIMARY KEY AUTOINCREMENT NOT NULL,\n    b TEXT\n)"] ∧
      statements.map (fun statement => TableSentence.ofText? .sqlite statement.sql) =
        [some (.createTable "t" lines options)] ∧
      lines.flatMap TableLine.primaryKeys = [⟨["a"], true⟩] := by
  intro table
  have hnames : (table.columns.map Column.name).Nodup := by decide
  obtain ⟨statements, hcompile, hsql⟩ : ∃ statements, table.compile .sqlite = .ok statements ∧
      statements.map Compiled.sql =
        ["CREATE TABLE t (\n    a INTEGER PRIMARY KEY AUTOINCREMENT NOT NULL,\n    b TEXT\n)"] :=
    ⟨_, rfl, by decide⟩
  obtain ⟨lines, options, others, hread, hkeys, -⟩ := primary_key_declared_once hnames hcompile
  have hothers : others = [] := by
    have hlength := congrArg List.length hread
    have hone := congrArg List.length hsql
    simp only [List.length_map, List.length_cons, List.length_nil] at hlength hone
    exact List.length_eq_zero_iff.mp (by omega)
  subst hothers
  exact ⟨hnames, statements, lines, options, hcompile, hsql, hread, hkeys⟩

end CreateTable

end SqlDialects
