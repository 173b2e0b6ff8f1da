import SqlDialects.Proofs.Table.Literals
import SqlDialects.Proofs.Table.Plan

/-! Texts in statements about tables are read back. Every text stands in a literal, in a definition
or in a comment; where backslashes escape, all of them are read back exactly if all keep their
backslashes. -/

namespace SqlDialects

/-- One text on both sides, which stands for itself inside string literals. -/
def KeptText (dialect : Dialect) (first second : String) : Prop :=
  first = second ∧ Quote.single.Keeps dialect first.toList

theorem keepsTexts_keptText (dialect : Dialect) : KeepsTexts dialect (KeptText dialect) := by
  rintro text _ ⟨rfl, h⟩
  exact ⟨h, h⟩

/-- All texts stand for themselves inside string literals. -/
def KeptTexts (dialect : Dialect) (texts : List String) : Prop :=
  ∀ text ∈ texts, Quote.single.Keeps dialect text.toList

/-- Each of the texts is read back from one of the definitions. -/
def Definition.ReadBack (dialect : Dialect) (texts : List String) (definitions : List Definition) :
    Prop :=
  ∀ text ∈ texts, ∃ definition ∈ definitions, ReadsBack dialect (definition.sql dialect) text

section

variable {dialect : Dialect} {R : String → String → Prop}

theorem Definition.readsBack_comment {text : String} (h : Quote.single.Keeps dialect text.toList)
    (table column : String) :
    ReadsBack dialect ((Definition.comment table column text).sql dialect) text := by
  have hname (name : String) := Identifier.readAlike_quote dialect (fun _ _ => False) name
  unfold sql commentSql
  cases dialect with
  | sqlServer =>
    have hliteral : ReadsBack .sqlServer (nationalString text) text := .of_isLiteral .national h
    exact ((hliteral.lead leads_propertyValue).ahead glues_propertyTable.toTrails _).ahead
      glues_propertyColumn.toTrails _
  | _ =>
    exact .glue (((hname table).lead (.of rfl)).glue (.of rfl) (hname column)) (.of rfl)
      (.literal h)

namespace Column

variable {column : Column}

theorem matches_self (h : KeptTexts dialect (column.texts dialect)) :
    column.Matches (KeptText dialect) column := by
  refine .intro column ?_ ?_
  · cases hdefault : column.options.default with
    | none => exact .none
    | some value =>
      refine .some ?_
      cases value with
      | string s => exact .text ⟨rfl, h s (mem_texts.mpr (.inl hdefault))⟩
      | _ => exact .same nofun
  · cases hdescription : column.options.description with
    | none => exact .none
    | some s =>
      refine .some ⟨rfl, ?_⟩
      by_cases hsqlite : dialect = .sqlite
      · exact Quote.keeps_of_ne (by simp [hsqlite]) .single s.toList
      · exact h s (mem_texts.mpr (.inr ⟨hsqlite, hdescription⟩))

/-- The texts that stand in the definition of a column. -/
def definedTexts (dialect : Dialect) (column : Column) : List String :=
  column.options.default.toList.filterMap Value.text? ++
    (if dialect = .mysql then column.options.description.toList else [])

theorem mem_definedTexts {text : String} : text ∈ column.definedTexts dialect ↔
    column.options.default = some (.string text) ∨
      dialect = .mysql ∧ column.options.description = some text := by
  simp [definedTexts, Value.text?_eq_some]

theorem yields_definition (column : Column) (dialect : Dialect) (R : String → String → Prop) :
    Yields (fun definition => ∃ type, ReadAlike dialect R type type ∧
      definition = column.defined dialect type) (column.definition dialect) := by
  rw [definition_eq]
  exact .after fun _ => column.yields_nativeType.map fun type htype => ⟨type, htype, rfl⟩

section

variable (h : KeptTexts dialect (column.texts dialect))

include h

/-- The texts of a column are read back from its definition. -/
theorem readsBack_defined {type : String}
    (htype : ReadAlike dialect (KeptText dialect) type type) {text : String}
    (hmem : text ∈ column.definedTexts dialect) :
    ReadsBack dialect ((column.defined dialect type).sql dialect) text := by
  have hself := matches_self h
  have hkeeps := keepsTexts_keptText dialect
  have hhead := column.readAlike_headSql htype
  have hdefault := hself.follows_defaultSql hkeeps type
  have hcomment := hself.follows_commentSql hkeeps type
  rw [ColumnDefinition.sql_eq]
  rcases mem_definedTexts.mp hmem with htext | ⟨hmysql, htext⟩
  · have hliteral : ReadsBack dialect (quoteString text) text :=
      .literal (h text (mem_texts.mpr (.inl htext)))
    have hsql : (column.defined dialect type).defaultSql dialect =
        " DEFAULT " ++ quoteString text := by
      simp only [defined, ColumnDefinition.defaultSql, htext]
      rfl
    rw [hsql, ← String.append_assoc]
    exact (ReadsBack.glue hhead (.of rfl) hliteral).before hcomment.left
  · have hliteral : ReadsBack dialect (quoteString text) text :=
      .literal (h text (mem_texts.mpr (.inr ⟨by simp [hmysql], htext⟩)))
    have hsql : (column.defined dialect type).commentSql = " COMMENT " ++ quoteString text := by
      simp only [defined, ColumnDefinition.commentSql, if_pos hmysql, htext]
    rw [hsql, ← String.append_assoc]
    exact ReadsBack.glue (hhead.follow hdefault) (.of rfl) hliteral

/-- The definition of a column can be read, and its texts are read back from it. -/
theorem readsBack_definition :
    Yields (fun definition =>
      ReadAlike dialect (KeptText dialect) (definition.sql dialect) (definition.sql dialect) ∧
        ∀ text ∈ column.definedTexts dialect, ReadsBack dialect (definition.sql dialect) text)
      (column.definition dialect) := by
  rintro definition hok
  obtain ⟨type, htype, rfl⟩ := column.yields_definition dialect (KeptText dialect) definition hok
  exact ⟨(matches_self h).readAlike_defined (keepsTexts_keptText dialect) htype,
    fun text hmem => readsBack_defined h htype hmem⟩

/-- What is not read back from the definition of a column is read back from its comments. -/
theorem readBack_comments (table : String) {definitions : List Definition}
    (hread : Definition.ReadBack dialect (column.definedTexts dialect) definitions) :
    Definition.ReadBack dialect (column.texts dialect)
      (definitions ++ column.comments dialect table) := by
  intro text hmem
  by_cases hdefined : text ∈ column.definedTexts dialect
  · obtain ⟨definition, hdefinition, hread⟩ := hread text hdefined
    exact ⟨definition, List.mem_append_left _ hdefinition, hread⟩
  obtain ⟨hdefault, hmysql⟩ := not_or.mp (mem_definedTexts.not.mp hdefined)
  obtain ⟨hsqlite, htext⟩ := (mem_texts.mp hmem).resolve_left hdefault
  have hcomments : column.comments dialect table = [.comment table column.name text] := by
    cases dialect with
    | mysql => exact absurd ⟨rfl, htext⟩ hmysql
    | sqlite => exact absurd rfl hsqlite
    | _ => simp only [Column.comments, htext]
  refine ⟨.comment table column.name text, List.mem_append_right _ ?_,
    Definition.readsBack_comment (h text hmem) table column.name⟩
  simp [hcomments]

end

end Column

namespace Definition

variable {text : String}

theorem readsBack_createTable (name : String) (engine : Option String) {items : List TableItem}
    (hitems : ∀ item ∈ items, SqlDialects.ReadAlike dialect R (item.sql dialect)
      (item.sql dialect)) {item : TableItem} (hmem : item ∈ items)
    (h : ReadsBack dialect (item.sql dialect) text) :
    ReadsBack dialect ((createTable name items engine).sql dialect) text := by
  have hname := Identifier.readAlike_quote dialect R name
  have hlines : ∀ line ∈ items.map fun item => "    " ++ item.sql dialect,
      SqlDialects.ReadAlike dialect R line line := by
    intro line hline
    obtain ⟨item, hitem, rfl⟩ := List.mem_map.mp hline
    exact (hitems item hitem).lead (.of rfl)
  have hline : "    " ++ item.sql dialect ∈ items.map fun item => "    " ++ item.sql dialect :=
    List.mem_map.mpr ⟨item, hmem, rfl⟩
  have hread : ReadsBack dialect ("    " ++ item.sql dialect) text := h.lead (.of rfl)
  refine ((ReadsBack.glue (hname.lead (.of rfl)) (.of rfl)
    (.join (.of rfl) hlines hline hread)).trail (.of rfl)).before ?_
  -- The name of an engine is not looked at: whatever it is, it stands behind the texts.
  cases engine with
  | none => simp [StartsApart]
  | some engine =>
    have hword : Trails dialect " ENGINE = " := .of rfl
    rw [String.toList_append]
    exact hword.startsApart_append _

theorem readsBack_alterTable (table : String) {actions : List AlterAction}
    (hactions : ∀ action ∈ actions, action.ReadAlike dialect R action) {action : AlterAction}
    (hmem : action ∈ actions) (h : ReadsBack dialect (action.sql dialect) text) :
    ReadsBack dialect ((alterTable table actions).sql dialect) text := by
  have hname := Identifier.readAlike_quote dialect R table
  have hall : ∀ sql ∈ actions.map (AlterAction.sql dialect),
      SqlDialects.ReadAlike dialect R sql sql := by
    intro sql hsql
    obtain ⟨action, haction, rfl⟩ := List.mem_map.mp hsql
    exact hactions action haction
  exact .glue (hname.lead (.of rfl)) (.of rfl)
    (.join (.of rfl) hall (List.mem_map.mpr ⟨action, hmem, rfl⟩) h)

theorem readsBack_alterOne (table : String) {action : AlterAction}
    (h : ReadsBack dialect (action.sql dialect) text) :
    ReadsBack dialect ((alterTable table [action]).sql dialect) text :=
  have hname := Identifier.readAlike_quote dialect (fun _ _ => False) table
  .glue (hname.lead (.of rfl)) (.of rfl) h

theorem readBack_alterOne (table : String) {action : AlterAction} {texts : List String}
    (h : ∀ text ∈ texts, ReadsBack dialect (action.sql dialect) text) :
    ReadBack dialect texts [.alterTable table [action]] := fun text hmem =>
  ⟨_, List.mem_cons_self, readsBack_alterOne table (h text hmem)⟩

end Definition

namespace CreateTable

theorem readAlike_keyItems (table : CreateTable) : ∀ item ∈ table.keyItems dialect,
    ReadAlike dialect R (item.sql dialect) (item.sql dialect) := by
  intro item hmem
  refine item.readAlike_sql dialect R fun definition hcolumn => ?_
  subst hcolumn
  exact absurd hmem (table.column_notMem_keyItems dialect definition)

/-- The texts of a table are read back from its plan. -/
theorem readBack_plan {table : CreateTable}
    (h : KeptTexts dialect (table.columns.flatMap (Column.texts dialect))) :
    Yields (Definition.ReadBack dialect (table.columns.flatMap (Column.texts dialect)))
      (table.plan dialect) := by
  have hkept {column : Column} (hmem : column ∈ table.columns) :
      KeptTexts dialect (column.texts dialect) := fun text htext =>
    h text (List.mem_flatMap.mpr ⟨column, hmem, htext⟩)
  intro definitions hok text htext
  rw [plan_eq] at hok
  split at hok
  · cases hok
  obtain ⟨columns, hcolumns, hok⟩ := bind_eq_ok_iff.mp hok
  obtain ⟨_, _, hok⟩ := bind_eq_ok_iff.mp hok
  obtain ⟨_, _, hok⟩ := bind_eq_ok_iff.mp hok
  cases hok
  have hall : ∀ definition ∈ columns,
      ReadAlike dialect (KeptText dialect) (definition.sql dialect) (definition.sql dialect) :=
    Yields.mapM (fun column hmem definition hok =>
      (Column.readsBack_definition (hkept hmem) definition hok).1) columns hcolumns
  have hitems : ∀ item ∈ columns.map .column ++ table.keyItems dialect,
      ReadAlike dialect (KeptText dialect) (item.sql dialect) (item.sql dialect) := by
    intro item hitem
    rcases List.mem_append.mp hitem with hitem | hitem
    · obtain ⟨definition, hmem, rfl⟩ := List.mem_map.mp hitem
      exact hall definition hmem
    · exact table.readAlike_keyItems item hitem
  obtain ⟨column, hmem, htext⟩ := List.mem_flatMap.mp htext
  obtain ⟨definition, hdefinition, hcolumn⟩ := exists_of_mapM_eq_ok hcolumns hmem
  have hread := (Column.readsBack_definition (hkept hmem) definition hcolumn).2
  have hdefined : Definition.ReadBack dialect (column.definedTexts dialect)
      [.createTable table.name (columns.map .column ++ table.keyItems dialect)
        (if dialect = .mysql then table.engine else none)] := fun text htext =>
    ⟨_, List.mem_cons_self, Definition.readsBack_createTable _ _ hitems
      (List.mem_append_left _ (List.mem_map.mpr ⟨definition, hdefinition, rfl⟩))
      (hread text htext)⟩
  obtain ⟨shown, hshown, hread⟩ :=
    Column.readBack_comments (hkept hmem) table.name hdefined text htext
  refine ⟨shown, ?_, hread⟩
  rcases List.mem_append.mp hshown with hshown | hshown
  · rw [List.mem_singleton.mp hshown]
    exact List.mem_cons_self
  · exact List.mem_cons_of_mem _
      (List.mem_append_right _ (List.mem_flatMap.mpr ⟨column, hmem, hshown⟩))

end CreateTable

namespace AlterAction

variable {text : String} (h : Quote.single.Keeps dialect text.toList)

include h

theorem readsBack_setDefault (column : String) :
    ReadsBack dialect ((setDefault column (.string text)).sql dialect) text :=
  have hcolumn : SqlDialects.ReadAlike dialect (fun _ _ => False) (alterColumn dialect column)
      (alterColumn dialect column) := readAlike_alterColumn column
  .glue hcolumn (.of rfl) (.literal h)

theorem readsBack_addDefault (constraint column : String) :
    ReadsBack dialect ((addDefault constraint column (.string text)).sql dialect) text := by
  have hname := Identifier.readAlike_quote dialect (fun _ _ => False) constraint
  refine ReadsBack.ahead ?_ (.of rfl) _
  exact .glue (hname.lead (.of rfl)) (.of rfl) (.literal h)

end AlterAction

namespace AlterOperation

section

variable {column : Column} (h : KeptTexts dialect (column.texts dialect)) (table : String)

include h

theorem readBack_addAutoincrementPlan (key : String) :
    Yields (Definition.ReadBack dialect (column.definedTexts dialect))
      (addAutoincrementPlan dialect table column key) := by
  refine (Column.readsBack_definition h).bind fun definition hread => ?_
  have hplan : Definition.ReadBack dialect (column.definedTexts dialect)
      [.alterTable table [.addColumnWithKey definition (soleKey key column)]] := by
    refine Definition.readBack_alterOne table fun text hmem => ?_
    refine ((hread.2 text hmem).lead (AlterAction.leads_addWord dialect)).ahead ?_ _
    split <;> exact .of rfl
  cases dialect with
  | sqlite => exact .error
  | _ => exact .ok hplan

theorem readBack_modifyPlan :
    Yields (Definition.ReadBack dialect (column.definedTexts dialect))
      (modifyPlan dialect table column) := by
  have hdefaults {text : String} (hmem : text ∈ column.definedTexts dialect)
      (hne : dialect ≠ .mysql) : column.options.default = some (.string text) :=
    (Column.mem_definedTexts.mp hmem).resolve_right fun hmysql => hne hmysql.1
  refine (yields_modifyPlan table column).imp ?_
  rintro _ (⟨rfl, definition, hdefinition, rfl⟩ | ⟨rfl, type, htype, rfl⟩ | ⟨rfl, type, -, rfl⟩)
  case inl =>
    have hread := Column.readsBack_definition h definition hdefinition
    exact Definition.readBack_alterOne table fun text hmem => (hread.2 text hmem).lead (.of rfl)
  case inr.inl =>
    intro text hmem
    have hdefault := hdefaults hmem (by decide)
    have hkeeps := h text (Column.mem_texts.mpr (.inl hdefault))
    have hactions : ∀ action ∈ AlterAction.setType column.name type ::
        AlterAction.setNullable column.name column.options.nullable ::
          column.options.default.toList.map (AlterAction.setDefault column.name),
        action.ReadAlike .postgres (KeptText .postgres) action := by
      simp only [List.forall_mem_cons, List.forall_mem_map]
      refine ⟨AlterAction.readAlike_setType (column.yields_nativeType type htype) _,
        AlterAction.IsPlain.readAlike ?_, ?_⟩
      · trivial
      · intro value hvalue
        have hself := List.forall₂_same.mp (Column.matches_self h).default_forall₂ value hvalue
        exact AlterAction.readAlike_setDefault (keepsTexts_keptText _) hself _
    refine ⟨_, List.mem_cons_self, Definition.readsBack_alterTable table hactions ?_
      (AlterAction.readsBack_setDefault hkeeps column.name)⟩
    simp [hdefault]
  case inr.inr =>
    intro text hmem
    have hdefault := hdefaults hmem (by decide)
    have hkeeps := h text (Column.mem_texts.mpr (.inl hdefault))
    have hread := AlterAction.readsBack_addDefault hkeeps
      (defaultConstraint table column.name) column.name
    refine ⟨_, List.mem_cons_of_mem _ ?_, Definition.readsBack_alterOne table hread⟩
    simp [hdefault]

end

theorem readBack_autoincrementPlan {column : Column} {key : String}
    (h : KeptTexts dialect ((autoincrement column key).texts dialect)) (table : String) :
    Yields (Definition.ReadBack dialect ((autoincrement column key).texts dialect))
      (autoincrementPlan dialect table column key) := by
  refine .after fun _ => ?_
  cases dialect with
  | mysql =>
    refine (Column.readsBack_definition h).map fun definition hread => ?_
    refine Definition.readBack_alterOne table fun text hmem => ?_
    exact ((hread.2 text hmem).lead (.of rfl)).ahead (.of rfl) _
  | _ => exact fun _ _ text hmem => absurd hmem List.not_mem_nil

theorem readBack_setDefaultPlan {value : Value} (h : KeptTexts dialect value.text?.toList)
    (table column : String) :
    Yields (Definition.ReadBack dialect value.text?.toList)
      (setDefaultPlan dialect table column value) := by
  have hvalue {text : String} (hmem : text ∈ value.text?.toList) : value = .string text :=
    Value.text?_eq_some.mp (Option.mem_toList.mp hmem)
  cases dialect with
  | sqlite => exact .error
  | sqlServer =>
    refine .ok (Definition.readBack_alterOne table fun text hmem => ?_)
    rw [hvalue hmem]
    exact AlterAction.readsBack_addDefault (h text hmem) _ column
  | _ =>
    refine .ok (Definition.readBack_alterOne table fun text hmem => ?_)
    rw [hvalue hmem]
    exact AlterAction.readsBack_setDefault (h text hmem) column

/-- The texts of an operation are read back from its plan. -/
theorem readBack_plan {operation : AlterOperation} (h : KeptTexts dialect (operation.texts dialect))
    (table : String) (types : ColumnTypes) :
    Yields (Definition.ReadBack dialect (operation.texts dialect))
      (operation.plan dialect table types) := by
  cases operation with
  | addColumn column =>
    refine (Column.readsBack_definition h).map fun definition hread => ?_
    have hone : Definition.ReadBack dialect (column.definedTexts dialect)
        [.alterTable table [.addColumn definition]] :=
      Definition.readBack_alterOne table fun text hmem =>
        (hread.2 text hmem).lead (AlterAction.leads_addWord dialect)
    exact Column.readBack_comments h table hone
  | addAutoincrement column key =>
    exact (readBack_addAutoincrementPlan h table key).map fun _ hread =>
      Column.readBack_comments h table hread
  | modifyColumn column =>
    exact (readBack_modifyPlan h table).map fun _ hread => Column.readBack_comments h table hread
  | autoincrement column key => exact readBack_autoincrementPlan h table
  | setDefault column value => exact readBack_setDefaultPlan h table column
  | _ => exact fun _ _ text hmem => absurd hmem List.not_mem_nil

end AlterOperation

theorem AlterTable.readBack_plan {alter : AlterTable}
    (h : KeptTexts dialect (alter.operations.flatMap (AlterOperation.texts dialect)))
    (types : ColumnTypes) :
    Yields (Definition.ReadBack dialect (alter.operations.flatMap (AlterOperation.texts dialect)))
      (alter.plan dialect types) := by
  intro definitions hok text htext
  obtain ⟨parts, hparts, hok⟩ := bind_eq_ok_iff.mp hok
  cases hok
  obtain ⟨operation, hmem, htext⟩ := List.mem_flatMap.mp htext
  obtain ⟨part, hpart, hplan⟩ := exists_of_mapM_eq_ok hparts hmem
  have hoperation : KeptTexts dialect (operation.texts dialect) := fun text htext =>
    h text (List.mem_flatMap.mpr ⟨operation, hmem, htext⟩)
  obtain ⟨definition, hdefinition, hread⟩ :=
    AlterOperation.readBack_plan hoperation alter.name types part hplan text htext
  exact ⟨definition, List.mem_flatten.mpr ⟨part, hpart, hdefinition⟩, hread⟩

/-- Each of the texts is read back from one of the statements. -/
def Compiled.ReadBack (dialect : Dialect) (texts : List String) (statements : List Compiled) :
    Prop :=
  ∀ text ∈ texts, ∃ compiled ∈ statements, ReadsBack dialect compiled.sql text

theorem TableStatement.readBack_compile {s : TableStatement}
    (h : KeptTexts dialect (s.texts dialect)) :
    Yields (Compiled.ReadBack dialect (s.texts dialect)) (s.compile dialect) := by
  have hcompile {plan : Except Error (List Definition)}
      (hplan : Yields (Definition.ReadBack dialect (s.texts dialect)) plan) :
      Yields (Compiled.ReadBack dialect (s.texts dialect))
        (plan >>= fun definitions => pure (definitions.map (Definition.compile dialect))) := by
    refine hplan.map fun definitions hread text hmem => ?_
    obtain ⟨definition, hdefinition, hread⟩ := hread text hmem
    exact ⟨_, List.mem_map.mpr ⟨definition, hdefinition, rfl⟩, hread⟩
  cases s with
  | create table => exact hcompile (CreateTable.readBack_plan h)
  | alter table types => exact hcompile (AlterTable.readBack_plan h types)

end

namespace TableStatement

/-- Texts are read back where backslashes escape: a statement about tables has all its texts in
literals that are read as these texts exactly if no backslash in them escapes anything. -/
theorem texts_read_back_iff {s : TableStatement} {statements : List Compiled}
    (h : s.compile .mysql = .ok statements) :
    (∀ text ∈ s.texts .mysql, ∃ compiled ∈ statements, ReadsBack .mysql compiled.sql text) ↔
      ∀ text ∈ s.texts .mysql, keepsBackslashes text.toList := by
  constructor
  · intro hread text hmem
    obtain ⟨compiled, _, hread⟩ := hread text hmem
    exact hread.keepsBackslashes
  · intro hkept
    have hkeeps : KeptTexts .mysql (s.texts .mysql) := fun text hmem _ => hkept text hmem
    exact readBack_compile hkeeps statements h

/-- Quotes are no harm, nor is a backslash in front of a wildcard. -/
theorem texts_read_back_of_quotes :
    let s : TableStatement := .alter
      { name := "t"
        operations := [.addColumn ⟨"c", .string,
          { default := some (.string "'); DROP TABLE t; --"), description := some "50\\%" }⟩] }
      .empty
    ∃ statements, s.compile .mysql = .ok statements ∧
      ∀ text ∈ s.texts .mysql, ∃ compiled ∈ statements, ReadsBack .mysql compiled.sql text := by
  intro s
  obtain ⟨statements, hok⟩ : ∃ statements, s.compile .mysql = .ok statements := ⟨_, rfl⟩
  exact ⟨statements, hok, (texts_read_back_iff hok).mpr (by decide)⟩

/-- A backslash at the end of a default takes the closing quote with it: the statement cannot be
read to its end, and no literal in it is the default. -/
theorem backslash_opens_literal :
    let s : TableStatement := .create
      { name := "t", columns := [⟨"c", .string, { default := some (.string "a\\") }⟩] }
    ∃ statements, s.compile .mysql = .ok statements ∧
      statements = [.plain "CREATE TABLE t (\n    c VARCHAR(255) DEFAULT 'a\\'\n)"] ∧
      (∀ compiled ∈ statements, lex .mysql compiled.sql = none) ∧
      ∃ text ∈ s.texts .mysql, ∀ compiled ∈ statements, ¬ReadsBack .mysql compiled.sql text := by
  intro s
  obtain ⟨statements, hok, hsql⟩ : ∃ statements, s.compile .mysql = .ok statements ∧
      statements = [.plain "CREATE TABLE t (\n    c VARCHAR(255) DEFAULT 'a\\'\n)"] :=
    ⟨_, rfl, by decide⟩
  refine ⟨statements, hok, hsql, ?_, "a\\", by decide, fun compiled _ hread => ?_⟩
  · subst hsql
    decide
  · exact absurd hread.keepsBackslashes (by decide)

end TableStatement

end SqlDialects
