import SqlDialects.Proofs.Table.KeyNames

/-! Where the names of keys are written: each behind the word for a constraint or an index, as a
path of parts. A table in a schema is named by such a path. A name that is made of that name has its
dots as well, and so it is read as a path of as many parts. -/

namespace SqlDialects

open Identifier

theorem length_splitOn (separator : Char) (text : List Char) :
    (text.splitOn separator).length = text.count separator + 1 := by
  induction text with
  | nil => rfl
  | cons c text ih =>
    rw [List.splitOn_cons_eq_if_modifyHead, List.count_cons]
    split
    case isTrue => rw [List.length_cons, ih]
    case isFalse => rw [List.length_modifyHead, ih, Nat.add_zero]

theorem count_join (separator : Char) {parts : List String}
    (hparts : ∀ part ∈ parts, separator ∉ part.toList) {between : String}
    (hbetween : separator ∉ between.toList) :
    (Text.join between parts).toList.count separator = 0 := by
  cases parts with
  | nil => rfl
  | cons first rest =>
    obtain ⟨hfirst, hrest⟩ := List.forall_mem_cons.mp hparts
    rw [Text.toList_join_cons, List.count_eq_zero, List.mem_append, List.mem_flatMap]
    rintro (hmem | ⟨part, hpart, hmem⟩)
    · exact hfirst hmem
    · exact (List.mem_append.mp hmem).elim hbetween (hrest part hpart)

/-- The name of a key has the dots of the table. -/
theorem length_splitOn_keyName (table : String) (kind : KeyKind) {columns : List String}
    (h : ∀ column ∈ columns, '.' ∉ column.toList) :
    ((keyName table kind columns).toList.splitOn '.').length =
      (table.toList.splitOn '.').length := by
  have hjoined : (Text.join "_" columns).toList.count '.' = 0 := count_join '.' h (by decide)
  have hsuffix : kind.suffix.toList.count '.' = 0 := by cases kind <;> rfl
  rw [length_splitOn, length_splitOn, toList_keyName]
  simp [hjoined, hsuffix]

theorem length_splitOn_eq_one_iff (name : String) :
    (name.toList.splitOn '.').length = 1 ↔ '.' ∉ name.toList := by
  rw [length_splitOn, Nat.add_eq_right, List.count_eq_zero]

/-- The words behind which the name of a key is declared. -/
def keyWords : List String := ["CONSTRAINT ", "INDEX "]

/-- Whether a text declares something by a name: the name stands behind the word for a constraint or
an index, with a blank behind it. -/
def IsNamedIn (dialect : Dialect) (name text : String) : Prop :=
  ∃ before after, ∃ word ∈ keyWords, after.head? = some ' ' ∧
    text.toList = before ++ (word.toList ++ ((quote dialect name).toList ++ after))

theorem exists_join_of_mem {separator part : String} {parts : List String} (h : part ∈ parts) :
    ∃ before after, (Text.join separator parts).toList = before ++ (part.toList ++ after) := by
  induction parts with
  | nil => cases h
  | cons first rest ih =>
    rcases List.mem_cons.mp h with rfl | hrest
    · exact ⟨[], _, Text.toList_join_cons separator part rest⟩
    · obtain ⟨before, after, hjoined⟩ := ih hrest
      obtain ⟨next, rest, rfl⟩ := List.exists_cons_of_ne_nil (List.ne_nil_of_mem hrest)
      refine ⟨first.toList ++ (separator.toList ++ before), after, ?_⟩
      rw [Text.join, String.toList_append, String.toList_append, hjoined]
      simp only [List.append_assoc]

namespace IsNamedIn

variable {dialect : Dialect} {name text : String}

/-- What is declared in a part of a text is declared in the text. -/
theorem of_part {whole : String} (h : IsNamedIn dialect name text)
    (hwhole : ∃ front back, whole.toList = front ++ (text.toList ++ back)) :
    IsNamedIn dialect name whole := by
  obtain ⟨before, after, word, hword, hblank, htext⟩ := h
  obtain ⟨front, back, hwhole⟩ := hwhole
  refine ⟨front ++ before, after ++ back, word, hword, ?_, ?_⟩
  · rw [List.head?_append, hblank, Option.some_or]
  · rw [hwhole, htext]
    simp only [List.append_assoc]

theorem join {separator : String} {texts : List String} (h : IsNamedIn dialect name text)
    (hmem : text ∈ texts) : IsNamedIn dialect name (Text.join separator texts) :=
  h.of_part (exists_join_of_mem hmem)

theorem append_left (h : IsNamedIn dialect name text) (front : String) :
    IsNamedIn dialect name (front ++ text) :=
  h.of_part ⟨front.toList, [], by simp⟩

theorem append_right (h : IsNamedIn dialect name text) (back : String) :
    IsNamedIn dialect name (text ++ back) :=
  h.of_part ⟨[], back.toList, by simp⟩

theorem of_append {start phrase : String} (name : String)
    (hstart : ∃ before, ∃ word ∈ keyWords, start = before ++ word)
    (hphrase : phrase.toList.head? = some ' ') :
    IsNamedIn dialect name (start ++ quote dialect name ++ phrase) := by
  obtain ⟨before, word, hword, rfl⟩ := hstart
  refine ⟨before.toList, phrase.toList, word, hword, hphrase, ?_⟩
  simp only [String.toList_append, List.append_assoc]

/-- The name is read as the path of its parts. -/
theorem exists_read (h : IsNamedIn dialect name text) :
    ∃ before after parts, ∃ word ∈ keyWords,
      text.toList = before ++ (word.toList ++ ((quote dialect name).toList ++ after)) ∧
      readPath dialect ((quote dialect name).toList ++ after) = some (parts, after) ∧
      parts.map PathPart.text = name.toList.splitOn '.' := by
  obtain ⟨before, after, word, hword, hblank, htext⟩ := h
  obtain ⟨more, rfl⟩ := List.head?_eq_some_iff.mp hblank
  exact ⟨before, _, _, word, hword, htext, readPath_quote name (endsPath_cons (.inl rfl) more),
    map_text_pathPart dialect _⟩

end IsNamedIn

theorem constraint_mem_keyWords : "CONSTRAINT " ∈ keyWords := List.mem_cons_self

theorem index_mem_keyWords : "INDEX " ∈ keyWords := List.mem_cons_of_mem _ List.mem_cons_self

variable {dialect : Dialect}

theorem Key.isNamedIn_constraintSql (key : Key) (word : String) :
    IsNamedIn dialect key.name (key.constraintSql dialect word) := by
  have htext : (key.constraintSql dialect word).toList ++ [] = _ := key.toList_constraintSql rfl []
  rw [List.append_nil] at htext
  refine ⟨[], _, "CONSTRAINT ", constraint_mem_keyWords, ?_, htext⟩
  simp only [String.toList_append, List.append_assoc]
  rfl

theorem ForeignKey.isNamedIn_sql (key : ForeignKey) :
    IsNamedIn dialect key.name (key.sql dialect) := by
  have htext : (key.sql dialect).toList ++ [] = _ := key.toList_sql []
  rw [List.append_nil] at htext
  exact ⟨[], _, "CONSTRAINT ", constraint_mem_keyWords, rfl, htext⟩

theorem TableItem.isNamedIn_sql {table : String} {item : TableItem} {object : KeyObject}
    (h : item.keyObject? dialect table = some object) :
    IsNamedIn dialect object.name (item.sql dialect) := by
  cases item with
  | column definition => cases h
  | primaryKey key | uniqueKey key =>
    cases h
    exact key.isNamedIn_constraintSql _
  | foreignKey key =>
    cases h
    exact key.isNamedIn_sql
  | index key =>
    cases h
    have hname : IsNamedIn dialect key.name ("INDEX " ++ quote dialect key.name ++ " (") :=
      .of_append key.name ⟨"", "INDEX ", index_mem_keyWords, rfl⟩ rfl
    exact (hname.append_right _).append_right ")"

theorem AlterAction.isNamedIn_sql {table : String} {action : AlterAction} {object : KeyObject}
    (h : action.keyObject? dialect table = some object) :
    IsNamedIn dialect object.name (action.sql dialect) := by
  cases action with
  | addColumnWithKey definition key | modifyWithKey definition key =>
    cases h
    exact (key.isNamedIn_constraintSql "PRIMARY KEY").append_left _
  | addItem item => exact (TableItem.isNamedIn_sql h).append_left "ADD "
  | _ => cases h

/-- A statement declares its keys by their names. -/
theorem Definition.isNamedIn_sql {definition : Definition} {object : KeyObject}
    (h : object ∈ definition.keyObjects dialect) :
    IsNamedIn dialect object.name (definition.sql dialect) := by
  cases definition with
  | createTable name items engine =>
    obtain ⟨item, hitem, hobject⟩ := List.mem_filterMap.mp h
    have hline : IsNamedIn dialect object.name ("    " ++ item.sql dialect) :=
      (TableItem.isNamedIn_sql hobject).append_left "    "
    have hlines : IsNamedIn dialect object.name
        (Text.join ",\n" (items.map fun item => "    " ++ item.sql dialect)) :=
      hline.join (List.mem_map_of_mem hitem)
    exact ((hlines.append_left _).append_right _).append_right _
  | createIndex unique table key =>
    cases List.mem_singleton.mp h
    have hstart : ∃ before, ∃ word ∈ keyWords,
        (if unique then "CREATE UNIQUE INDEX " else "CREATE INDEX ") = before ++ word := by
      cases unique with
      | true => exact ⟨"CREATE UNIQUE ", "INDEX ", index_mem_keyWords, rfl⟩
      | false => exact ⟨"CREATE ", "INDEX ", index_mem_keyWords, rfl⟩
    have hname : IsNamedIn dialect key.name (_ ++ quote dialect key.name ++ " ON ") :=
      .of_append key.name hstart rfl
    exact (((hname.append_right _).append_right " (").append_right _).append_right ")"
  | alterTable table actions =>
    obtain ⟨action, haction, hobject⟩ := List.mem_filterMap.mp h
    exact ((AlterAction.isNamedIn_sql hobject).join (List.mem_map_of_mem haction)).append_left _
  | _ => cases h

namespace TableStatement

/-- The keys that a statement declares with names. -/
def writtenKeys (dialect : Dialect) : TableStatement → List (KeyKind × Key)
  | create table => table.writtenKeys dialect
  | alter table _ => table.operations.filterMap AlterOperation.key?

theorem namedKeys_eq (dialect : Dialect) (s : TableStatement) :
    s.namedKeys dialect = (s.writtenKeys dialect).map fun (kind, key) => (kind, key.name) := by
  cases s with
  | create table => exact table.namedKeys_eq dialect
  | alter table types =>
    simp only [namedKeys, writtenKeys, List.map_filterMap, AlterOperation.namedKey?_eq]

/-- Whether no key of a statement is given a name by the steps that it is described by. -/
inductive IsUnnamed : TableStatement → Prop
  | create (name : String) {steps : List CreateStep} (h : ∀ step ∈ steps, step.IsUnnamed) :
    IsUnnamed (.create (.ofSteps name steps))
  | alter (name : String) {steps : List AlterStep} (h : ∀ step ∈ steps, step.IsUnnamed)
    (types : ColumnTypes) : IsUnnamed (.alter (.ofSteps name steps) types)

theorem IsUnnamed.isNamedAfter {s : TableStatement} (h : s.IsUnnamed) (dialect : Dialect) :
    ∀ key ∈ s.writtenKeys dialect, IsNamedAfter s.tableName key := by
  cases h with
  | create name hsteps =>
    have hnames := CreateTable.namesKeys_ofSteps name hsteps
    intro key hkey
    rw [tableName, hnames.name_eq]
    exact hnames.writtenKeys dialect key hkey
  | alter name hsteps types =>
    have hnames := AlterTable.namesKeys_ofSteps name hsteps
    intro key hkey
    obtain ⟨operation, hoperation, hdeclares⟩ := List.mem_filterMap.mp hkey
    rw [tableName, hnames.name_eq]
    exact hnames.operations operation hoperation key hdeclares

/-- Every key of a description is declared by one of its statements. -/
theorem exists_definition {s : TableStatement} {definitions : List Definition}
    (h : s.plan dialect = .ok definitions) {key : KeyKind × Key}
    (hkey : key ∈ s.writtenKeys dialect) :
    ∃ definition ∈ definitions, IsNamedIn dialect key.2.name (definition.sql dialect) := by
  have hperm := s.keyObjects_plan dialect definitions h
  rw [namedKeys_eq, List.map_map] at hperm
  have hmem : KeyObject.declared dialect s.creates s.tableName (key.1, key.2.name) ∈
      definitions.flatMap (Definition.keyObjects dialect) :=
    hperm.mem_iff.mpr (List.mem_map_of_mem hkey)
  obtain ⟨definition, hdefinition, hobject⟩ := List.mem_flatMap.mp hmem
  have hnamed := Definition.isNamedIn_sql hobject
  exact ⟨definition, hdefinition, hnamed⟩

/-- The name of a key is written behind the word for a constraint or an index, and read there as the
path of its parts. Where no names are given, the name follows from the table. Then it is a path of
as many parts as the name of the table, unless the columns of the key have dots in them, and so it
is a single identifier exactly if the name of the table is. -/
theorem generated_names_have_parts_of_table {dialect : Dialect} {s : TableStatement}
    {statements : List Compiled} (h : s.compile dialect = .ok statements) :
    ∀ key ∈ s.writtenKeys dialect, (s.IsUnnamed → IsNamedAfter s.tableName key) ∧
      ∃ statement ∈ statements, ∃ before after parts, ∃ word ∈ keyWords,
        statement.sql.toList =
          before ++ (word.toList ++ ((quote dialect key.2.name).toList ++ after)) ∧
        readPath dialect ((quote dialect key.2.name).toList ++ after) = some (parts, after) ∧
        parts.map PathPart.text = key.2.name.toList.splitOn '.' ∧
        (IsNamedAfter s.tableName key → (∀ column ∈ key.2.columns, '.' ∉ column.toList) →
          parts.length = (s.tableName.toList.splitOn '.').length ∧
          (parts.length = 1 ↔ '.' ∉ s.tableName.toList)) := by
  intro key hkey
  obtain ⟨definitions, hplan, rfl⟩ := compile_eq_ok_iff.mp h
  obtain ⟨definition, hdefinition, hnamed⟩ := exists_definition hplan hkey
  obtain ⟨before, after, parts, word, hword, htext, hread, hparts⟩ := hnamed.exists_read
  refine ⟨fun hunnamed => hunnamed.isNamedAfter dialect key hkey, definition.compile dialect,
    List.mem_map_of_mem hdefinition, before, after, parts, word, hword, htext, hread, hparts,
    fun hname hcolumns => ?_⟩
  have hlength : parts.length = (s.tableName.toList.splitOn '.').length := by
    rw [← List.length_map PathPart.text, hparts, hname, length_splitOn_keyName _ _ hcolumns]
  exact ⟨hlength, by rw [hlength, length_splitOn_eq_one_iff]⟩

/-- An index of a table without a schema. -/
theorem generated_names_have_parts_of_index :
    let s : TableStatement := .alter
      (.ofSteps "t" [.declare (.column ⟨"Order", .integer, {}⟩ ⟨[.key .index], none⟩)]) .empty
    s.compile .sqlServer = .ok [.plain "ALTER TABLE t ADD [Order] INTEGER",
        .plain "CREATE INDEX t_ik_Order ON t ([Order])"] ∧
      (.index, ⟨"t_ik_Order", ["Order"]⟩) ∈ s.writtenKeys .sqlServer ∧
      ∃ after part,
        readPath .sqlServer ((quote .sqlServer "t_ik_Order").toList ++ after) =
          some ([part], after) := by
  intro s
  have hcompile : s.compile .sqlServer = .ok [.plain "ALTER TABLE t ADD [Order] INTEGER",
      .plain "CREATE INDEX t_ik_Order ON t ([Order])"] := by rfl
  have hkey : (.index, ⟨"t_ik_Order", ["Order"]⟩) ∈ s.writtenKeys .sqlServer := by decide
  have hunnamed : s.IsUnnamed :=
    .alter "t" (by simp [AlterStep.IsUnnamed, TableStep.IsUnnamed]) .empty
  obtain ⟨hnamed, _, -, _, after, parts, _, -, -, hread, -, hlength⟩ :=
    generated_names_have_parts_of_table hcompile _ hkey
  obtain ⟨part, rfl⟩ := List.length_eq_one_iff.mp
    ((hlength (hnamed hunnamed) (by decide)).2.mpr (by decide))
  exact ⟨hcompile, hkey, after, part, hread⟩

/-- The name of a unique key of a table in a schema is a path, of the schema and something in it. -/
theorem generated_name_is_path_of_schema :
    let steps : List CreateStep := [.declare (.column ⟨"a", .integer, {}⟩ ⟨[.key .unique], none⟩)]
    (∀ step ∈ steps, step.IsUnnamed) ∧
      (CreateTable.ofSteps "s.t" steps).compile .postgres = .ok [.plain <|
        "CREATE TABLE s.t (\n    a INTEGER,\n    CONSTRAINT s.t_uk_a UNIQUE (a)\n)"] ∧
      readPath .postgres "s.t_uk_a UNIQUE (a)\n)".toList =
        some ([.word "s".toList, .word "t_uk_a".toList], " UNIQUE (a)\n)".toList) :=
  ⟨by simp [CreateStep.IsUnnamed, TableStep.IsUnnamed], by rfl, by decide⟩

end TableStatement

end SqlDialects
