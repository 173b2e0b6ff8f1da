import SqlDialects.Proofs.Table.ChangeText

/-! The statements that descriptions of tables compile to, read off their texts. Whatever a table is
created or changed by, each of its statements is read as a sentence, and what the sentence says is
what the statement was made from. -/

namespace SqlDialects

open Text.Reader Identifier

section

variable {R : α → β → Prop} {f : α → List γ}

/-- What is said about the items of a list, if each is written as something that says the same. -/
theorem flatMap_eq_of_forall₂ {g : β → List γ} (hsame : ∀ a b, R a b → g b = f a)
    {items : List α} {written : List β} (h : List.Forall₂ R items written) :
    written.flatMap g = items.flatMap f := by
  induction h with
  | nil => rfl
  | cons hfirst _ ih => rw [List.flatMap_cons, List.flatMap_cons, ih, hsame _ _ hfirst]

theorem flatMap_flatten_of_forall₂ {R : α → List β → Prop} {g : β → List γ}
    (hsame : ∀ a bs, R a bs → bs.flatMap g = f a) {items : List α} {written : List (List β)}
    (h : List.Forall₂ R items written) : written.flatten.flatMap g = items.flatMap f := by
  have hflatten : written.flatten = written.flatMap id := List.flatMap_id.symm
  rw [hflatten, List.flatMap_assoc]
  exact flatMap_eq_of_forall₂ hsame h

end

/-- A statement about a table as it is written. -/
inductive SchemaSentence where
  /-- A statement about a new table, or one that may be about an older one as well. -/
  | ofTable (sentence : TableSentence)
  | alterTable (table : String) (actions : List WrittenAction)
  /-- An index is dropped; the table is named in SQL Server only. -/
  | dropIndex (name : String) (table : Option String)
  /-- A column is renamed by a procedure. The source is the path of the table and the column. -/
  | callRename (source target : String)
deriving DecidableEq, Repr

namespace SchemaSentence

variable (dialect : Dialect) (types : ColumnTypes)

def readAlterTable : Text.Reader SchemaSentence := do
  let table ← readName dialect
  expect " "
  let first ← WrittenAction.read dialect types
  return .alterTable table (first :: (← several (WrittenAction.readNext dialect types)))

def readDropIndex : Text.Reader SchemaSentence := do
  let name ← readName dialect
  if ← takes " ON " then return .dropIndex name (some (← readName dialect))
  return .dropIndex name none

def readCallRename : Text.Reader SchemaSentence := do
  let source ← insideQuotes
  expect ", '"
  let target ← insideQuotes
  expect ", 'COLUMN'"
  return .callRename (String.ofList source) (String.ofList target)

def readers : List (String × Text.Reader SchemaSentence) := [
  ("ALTER TABLE ", readAlterTable dialect types),
  ("DROP INDEX ", readDropIndex dialect),
  ("EXEC sp_rename '", readCallRename)]

/-- The sentence that a statement is read as, given the types that columns have already. -/
def ofText? (text : String) : Option SchemaSentence :=
  match TableSentence.ofText? dialect text with
  | some sentence => some (.ofTable sentence)
  | none => (behind (readers dialect types)).readAll text.toList

end SchemaSentence

/-- The sentence that a definition is read as, in the dialects that have it. -/
inductive Definition.WrittenAs (dialect : Dialect) (types : ColumnTypes) :
    Definition → SchemaSentence → Prop
  | createTable {name : String} {items : List TableItem} {engine : Option String}
      {lines : List TableLine} {options : String}
      (hitems : List.Forall₂ (TableItem.WrittenAs dialect) items lines)
      (h : TableSentence.ofText? dialect ((createTable name items engine).sql dialect) =
        some (.createTable name lines options)) :
      WrittenAs dialect types (.createTable name items engine)
        (.ofTable (.createTable name lines options))
  | createIndex (unique : Bool) (table : String) (key : Key) :
      WrittenAs dialect types (.createIndex unique table key)
        (.ofTable (.createIndex unique table key))
  | comment (table column text : String) (hdialect : dialect = .postgres ∨ dialect = .sqlServer) :
      WrittenAs dialect types (.comment table column text)
        (.ofTable (.comment (table ++ "." ++ column) text))
  | alterTable (table : String) {actions : List AlterAction} {parts : List (List WrittenAction)}
      (hactions : actions ≠ [])
      (h : List.Forall₂ (AlterAction.WrittenAs dialect types) actions parts) :
      WrittenAs dialect types (.alterTable table actions) (.alterTable table parts.flatten)
  | dropIndex (name table : String) :
      WrittenAs dialect types (.dropIndex name table)
        (.dropIndex name (if dialect = .sqlServer then some table else none))
  | callRenameColumn (table source target : String) :
      WrittenAs dialect types (.callRenameColumn table source target)
        (.callRename (table ++ "." ++ source) target)

namespace SchemaSentence

variable {dialect : Dialect} {types : ColumnTypes}

theorem ofText?_of_table {text : String} {sentence : TableSentence}
    (h : TableSentence.ofText? dialect text = some sentence) :
    ofText? dialect types text = some (.ofTable sentence) := by
  rw [ofText?, h]

theorem ofText?_of_append {text : String} (phrase : String) {rest : List Char}
    {reader : Text.Reader SchemaSentence} {sentence : SchemaSentence}
    (htext : text.toList = phrase.toList ++ rest)
    (hmissed : (behind (TableSentence.readers dialect)).readAll (phrase.toList ++ rest) = none)
    (hfind : (readers dialect types).find? (fun (phrase', _) =>
      phrase'.toList.isPrefixOf (phrase.toList ++ rest)) = some (phrase, reader))
    (hread : reader rest = some (sentence, [])) :
    ofText? dialect types text = some sentence := by
  rw [← htext] at hmissed
  rw [ofText?, TableSentence.ofText?, hmissed]
  simp only [htext, readAll, StateT.run, behind_append hfind, hread]

/-- Actions are read back one after the other. -/
theorem readAlterTable_append (table : String) {text : List Char} {actions : List WrittenAction}
    (h : WrittenAction.Spells dialect types text actions) :
    readAlterTable dialect types ((quote dialect table).toList ++ (" ".toList ++ text)) =
      some (.alterTable table actions, []) := by
  obtain ⟨first, others, htexts, rfl, rfl⟩ := h
  obtain ⟨hfirst, hothers⟩ := List.forall_mem_cons.mp htexts
  have hends (items : List (List Char × WrittenAction)) :
      EndsLine (items.flatMap (fun item => ", ".toList ++ item.1) ++ []) := by
    cases items with
    | nil => exact fun _ h => nomatch h
    | cons item items =>
      rintro c ⟨⟩
      exact .inl rfl
  have hseveral : several (WrittenAction.readNext dialect types)
      (others.flatMap (fun item => ", ".toList ++ item.1) ++ []) =
        some (others.map Prod.snd, []) := by
    refine several_append (fun _ _ => List.cons_ne_nil _ _) ?_ (expect_bind_of_not_isPrefixOf rfl)
    intro before item after hitems
    rw [List.append_assoc, WrittenAction.readNext, bind_of_eq (expect_append ", " _)]
    exact hothers item (by simp [hitems]) _ (hends after)
  rw [← List.append_nil (others.flatMap _), readAlterTable,
    bind_of_eq (readName_quote table (endsPath_blank " " rfl _)), bind_of_eq (expect_append " " _),
    bind_of_eq (hfirst _ (hends others)), bind_of_eq hseveral]
  rfl

theorem readDropIndex_append (name table : String) :
    readDropIndex dialect ((quote dialect name).toList ++
      (if dialect = .sqlServer then " ON " ++ quote dialect table else "").toList) =
        some (.dropIndex name (if dialect = .sqlServer then some table else none), []) := by
  by_cases hdialect : dialect = .sqlServer
  · rw [if_pos hdialect, if_pos hdialect, String.toList_append,
      ← List.append_nil (quote dialect table).toList, readDropIndex,
      bind_of_eq (readName_quote name (endsPath_blank " ON " rfl _)), ite_takes_append,
      bind_of_eq (readName_quote table (endsPath_nil _))]
    rfl
  · rw [if_neg hdialect, if_neg hdialect, String.toList_empty, readDropIndex,
      bind_of_eq (readName_quote name (endsPath_nil _))]
    rfl

theorem readCallRename_append (source target : String) :
    readCallRename (Text.double '\'' source.toList ++ '\'' :: (", '".toList ++
      (Text.double '\'' target.toList ++ '\'' :: (", 'COLUMN'".toList ++ [])))) =
        some (.callRename source target, []) := by
  have hquote (phrase : String) (more : List Char) (h : phrase.toList.head? = some ',') :
      '\'' ∉ (phrase.toList ++ more).head? := by
    obtain ⟨_, hphrase⟩ := List.head?_eq_some_iff.mp h
    rw [hphrase]
    rintro ⟨⟩
  rw [readCallRename, bind_of_eq (insideQuotes_double _ (hquote ", '" _ rfl)),
    bind_of_eq (expect_append ", '" _),
    bind_of_eq (insideQuotes_double _ (hquote ", 'COLUMN'" _ rfl)),
    bind_of_eq (expect_append ", 'COLUMN'" _)]
  show some (callRename (String.ofList source.toList) (String.ofList target.toList), []) = _
  rw [String.ofList_toList, String.ofList_toList]

end SchemaSentence

section

variable {dialect : Dialect} {types : ColumnTypes}

/-- The actions of a change are written one after the other. -/
theorem AlterAction.spells_join {actions : List AlterAction} {parts : List (List WrittenAction)}
    (hactions : actions ≠ [])
    (h : List.Forall₂ (AlterAction.WrittenAs dialect types) actions parts) :
    WrittenAction.Spells dialect types
      (Text.join ", " (actions.map (AlterAction.sql dialect))).toList parts.flatten := by
  induction h with
  | nil => exact absurd rfl hactions
  | @cons action part actions parts hfirst hothers ih =>
    cases hothers with
    | nil =>
      rw [List.flatten_singleton]
      exact hfirst.spells
    | cons => exact hfirst.spells.append (ih (List.cons_ne_nil _ _))

/-- The text of a definition is read as the sentence that the definition is written as. -/
theorem Definition.WrittenAs.ofText?_eq {definition : Definition} {sentence : SchemaSentence}
    (h : definition.WrittenAs dialect types sentence) :
    SchemaSentence.ofText? dialect types (definition.sql dialect) = some sentence := by
  cases h with
  | createTable _ h => exact SchemaSentence.ofText?_of_table h
  | createIndex unique table key =>
    exact SchemaSentence.ofText?_of_table (TableSentence.ofText?_createIndex unique table key)
  | comment table column text hdialect =>
    rcases hdialect with rfl | rfl
    · exact SchemaSentence.ofText?_of_table (TableSentence.ofText?_comment table column text)
    · exact SchemaSentence.ofText?_of_table (TableSentence.ofText?_property table column text)
  | @alterTable table actions parts hactions h =>
    have htext : ((Definition.alterTable table actions).sql dialect).toList =
        "ALTER TABLE ".toList ++ ((quote dialect table).toList ++ (" ".toList ++
          (Text.join ", " (actions.map (AlterAction.sql dialect))).toList)) := by
      have hsql : (Definition.alterTable table actions).sql dialect = "ALTER TABLE " ++
          quote dialect table ++ " " ++ Text.join ", " (actions.map (AlterAction.sql dialect)) :=
        rfl
      simp only [hsql, String.toList_append, List.append_assoc]
    exact SchemaSentence.ofText?_of_append "ALTER TABLE " htext rfl rfl
      (SchemaSentence.readAlterTable_append table (AlterAction.spells_join hactions h))
  | dropIndex name table =>
    have htext : ((Definition.dropIndex name table).sql dialect).toList =
        "DROP INDEX ".toList ++ ((quote dialect name).toList ++
          (if dialect = .sqlServer then " ON " ++ quote dialect table else "").toList) := by
      have hsql : (Definition.dropIndex name table).sql dialect = "DROP INDEX " ++
          quote dialect name ++
            (if dialect = .sqlServer then " ON " ++ quote dialect table else "") := rfl
      rw [hsql, String.toList_append, String.toList_append, List.append_assoc]
    exact SchemaSentence.ofText?_of_append "DROP INDEX " htext rfl rfl
      (SchemaSentence.readDropIndex_append name table)
  | callRenameColumn table source target =>
    have htext : ((Definition.callRenameColumn table source target).sql dialect).toList =
        "EXEC sp_rename '".toList ++ (Text.double '\'' (table ++ "." ++ source).toList ++ '\'' ::
          (", '".toList ++ (Text.double '\'' target.toList ++ '\'' ::
            (", 'COLUMN'".toList ++ [])))) := by
      have hsql : (Definition.callRenameColumn table source target).sql dialect =
          "EXEC sp_rename " ++ quoteString (table ++ "." ++ source) ++ ", " ++
            quoteString target ++ ", 'COLUMN'" := rfl
      simp [hsql, quoteString]
    exact SchemaSentence.ofText?_of_append "EXEC sp_rename '" htext rfl rfl
      (SchemaSentence.readCallRename_append _ target)

/-- Whether each definition is written as a sentence. -/
def Definition.AllWritten (dialect : Dialect) (types : ColumnTypes)
    (definitions : List Definition) : Prop :=
  ∀ definition ∈ definitions, ∃ sentence, definition.WrittenAs dialect types sentence

/-- The statements for definitions are read as sentences in the same order. -/
theorem Definition.AllWritten.exists_sentences {definitions : List Definition}
    (h : AllWritten dialect types definitions) :
    ∃ sentences, List.Forall₂ (Definition.WrittenAs dialect types) definitions sentences ∧
      (definitions.map (Definition.compile dialect)).map (fun statement =>
        SchemaSentence.ofText? dialect types statement.sql) = sentences.map some := by
  induction definitions with
  | nil => exact ⟨[], .nil, rfl⟩
  | cons definition definitions ih =>
    obtain ⟨⟨sentence, hfirst⟩, hothers⟩ := List.forall_mem_cons.mp h
    obtain ⟨sentences, hsentences, hread⟩ := ih hothers
    refine ⟨sentence :: sentences, .cons hfirst hsentences, ?_⟩
    rw [List.map_cons, List.map_cons, hread, List.map_cons]
    exact congrArg (· :: sentences.map some) hfirst.ofText?_eq

theorem Definition.AllWritten.singleton {definition : Definition} {sentence : SchemaSentence}
    (h : definition.WrittenAs dialect types sentence) : AllWritten dialect types [definition] := by
  intro other hmem
  rw [List.mem_singleton.mp hmem]
  exact ⟨sentence, h⟩

theorem Definition.AllWritten.append {first second : List Definition}
    (hfirst : AllWritten dialect types first) (hsecond : AllWritten dialect types second) :
    AllWritten dialect types (first ++ second) :=
  List.forall_mem_append.mpr ⟨hfirst, hsecond⟩

/-- A change by one action. -/
theorem Definition.AllWritten.alterOne (table : String) {action : AlterAction}
    {written : List WrittenAction} (h : action.WrittenAs dialect types written) :
    AllWritten dialect types [.alterTable table [action]] :=
  .singleton (.alterTable table (List.cons_ne_nil action []) (.cons h .nil))

namespace Column

/-- The definition of a column is written as one that says the same. -/
theorem yields_writtenAs (column : Column) :
    Yields (fun definition => ∃ written, definition.WrittenAs dialect written)
      (column.definition dialect) := fun definition h =>
  (column.exists_written dialect definition h).imp fun _ => And.left

theorem yields_startsNoPart (column : Column) :
    Yields (fun definition => StartsNoPart definition.nativeType) (column.definition .mysql) := by
  rw [definition_eq]
  exact .after fun _ => column.startsNoPart_nativeType.map fun _ h => h

theorem allWritten_comments (dialect : Dialect) (types : ColumnTypes) (table : String)
    (column : Column) : Definition.AllWritten dialect types (column.comments dialect table) := by
  unfold Column.comments
  split
  · exact .singleton (.comment table column.name _ (.inl rfl))
  · exact .singleton (.comment table column.name _ (.inr rfl))
  · exact fun _ h => nomatch h

end Column

namespace AlterOperation

variable (table : String)

theorem allWritten_modifyPlan (column : Column) :
    Yields (Definition.AllWritten dialect types) (modifyPlan dialect table column) := by
  refine (yields_modifyPlan table column).imp ?_
  rintro _ (⟨rfl, definition, hdefinition, rfl⟩ | ⟨rfl, type, htype, rfl⟩ | ⟨rfl, type, htype, rfl⟩)
  case inl =>
    obtain ⟨written, hwritten⟩ := column.yields_writtenAs definition hdefinition
    exact .alterOne table
      (.modifyColumn rfl hwritten (column.yields_startsNoPart definition hdefinition))
  case inr.inl =>
    have hdefaults : List.Forall₂ (AlterAction.WrittenAs .postgres types)
        (column.options.default.toList.map (.setDefault column.name))
        (column.options.default.toList.map fun value =>
          [.setDefault column.name (value.written .postgres)]) :=
      forall₂_map_map (fun value => .setDefault column.name value (by decide)) _
    exact .singleton (.alterTable table (List.cons_ne_nil _ _)
      (.cons (.setType column.name rfl (column.isTypeText_nativeType .postgres type htype))
        (.cons (.setNullable column.name column.options.nullable rfl) hdefaults)))
  case inr.inr =>
    have htypes : Definition.AllWritten .sqlServer types
        [.alterTable table [.setTypeAndNull column.name type column.options.nullable]] :=
      .alterOne table (.setTypeAndNull column.name column.options.nullable rfl
        (column.isTypeText_nativeType .sqlServer type htype))
    refine htypes.append (List.forall_mem_map.mpr fun value _ => ?_)
    exact Definition.AllWritten.alterOne table (.addDefault _ column.name value) _
      (List.mem_singleton_self _)

theorem allWritten_autoincrementPlan (column : Column) (key : String) :
    Yields (Definition.AllWritten dialect types) (autoincrementPlan dialect table column key) := by
  refine .after fun _ => ?_
  cases dialect with
  | mysql =>
    exact column.yields_writtenAs.map fun definition ⟨written, hwritten⟩ =>
      .alterOne table (.modifyWithKey _ hwritten)
  | postgres =>
    exact .ok (.singleton (.alterTable table (List.cons_ne_nil _ _)
      (.cons (.setNullable column.name false rfl) (.cons (.addIdentity column.name rfl)
        (.cons (.addKey (.primaryKey _) (.primaryKey _)) .nil)))))
  | sqlite | sqlServer => exact .error

theorem allWritten_addKeyPlan (kind : KeyKind) (key : Key) :
    Yields (Definition.AllWritten dialect types) (addKeyPlan dialect table kind key) := by
  have hindex (unique : Bool) : Definition.AllWritten dialect types
      [.createIndex unique table key] := .singleton (.createIndex unique table key)
  have hprimary : Definition.AllWritten dialect types
      [.alterTable table [.addItem (.primaryKey key)]] :=
    .alterOne table (.addKey (.primaryKey key) (.primaryKey key))
  have hunique : Definition.AllWritten dialect types
      [.alterTable table [.addItem (.uniqueKey key)]] :=
    .alterOne table (.addKey (.uniqueKey key) (.uniqueKey key))
  cases dialect <;> cases kind <;>
    first
    | exact .ok (hindex _)
    | exact .ok hprimary
    | exact .ok hunique
    | exact .error

theorem allWritten_dropKeyPlan (kind : KeyKind) (name : String) :
    Yields (Definition.AllWritten dialect types) (dropKeyPlan dialect table kind name) := by
  have hindex : Definition.AllWritten dialect types [.dropIndex name table] :=
    .singleton (.dropIndex name table)
  have hone {action : AlterAction} {written : List WrittenAction}
      (h : action.WrittenAs dialect types written) := Definition.AllWritten.alterOne table h
  cases dialect <;> cases kind <;>
    first
    | exact .ok hindex
    | exact .ok (hone .dropPrimaryKey)
    | exact .ok (hone (.dropIndex name))
    | exact .ok (hone (.dropForeignKey name))
    | exact .ok (hone (.dropConstraint name))
    | exact .error

theorem allWritten_renamePlan (source target : String) :
    Yields (Definition.AllWritten dialect types)
      (renamePlan dialect table source target types) := by
  refine (yields_renamePlan table source target types).imp ?_
  rintro _ (⟨type, htype, rfl⟩ | rfl | rfl)
  · exact .alterOne table (.changeColumn target htype)
  · exact .alterOne table (.renameColumn source target)
  · exact .singleton (.callRenameColumn table source target)

/-- The statements of an operation are read back. -/
theorem allWritten_plan (operation : AlterOperation) :
    Yields (Definition.AllWritten dialect types) (operation.plan dialect table types) := by
  have hcomments (column : Column) := column.allWritten_comments dialect types table
  cases operation with
  | addColumn column =>
    exact column.yields_writtenAs.map fun definition ⟨written, hwritten⟩ =>
      (Definition.AllWritten.alterOne table (.addColumn hwritten)).append (hcomments column)
  | addAutoincrement column key =>
    have hplan : Yields (Definition.AllWritten dialect types)
        (addAutoincrementPlan dialect table column key) := by
      refine column.yields_writtenAs.bind fun definition ⟨written, hwritten⟩ => ?_
      split
      · exact .error
      · exact .ok (.alterOne table (.addColumnWithKey _ hwritten))
    exact hplan.map fun _ h => h.append (hcomments column)
  | modifyColumn column =>
    exact (allWritten_modifyPlan table column).map fun _ h => h.append (hcomments column)
  | renameColumn source target => exact allWritten_renamePlan table source target
  | dropColumn name => exact .ok (.alterOne table (.dropColumn name))
  | addKey kind key => exact allWritten_addKeyPlan table kind key
  | addForeign key =>
    refine (yields_addForeignPlan table key).imp ?_
    rintro _ rfl
    exact .alterOne table (.addKey (.foreignKey key) (.foreignKey key))
  | dropKey kind name => exact allWritten_dropKeyPlan table kind name
  | setDefault column value =>
    unfold plan setDefaultPlan
    dsimp only
    cases dialect with
    | sqlite => exact .error
    | sqlServer => exact .ok (.alterOne table (.addDefault _ column value))
    | mysql | postgres => exact .ok (.alterOne table (.setDefault column value (by decide)))
  | dropDefault column =>
    unfold plan dropDefaultPlan
    dsimp only
    cases dialect with
    | sqlite => exact .error
    | sqlServer => exact .ok (.alterOne table (.dropConstraint _))
    | mysql | postgres => exact .ok (.alterOne table (.dropDefault column (by decide)))
  | autoincrement column key => exact allWritten_autoincrementPlan table column key

end AlterOperation

/-- The statements for a new table are read back. -/
theorem CreateTable.allWritten_plan (table : CreateTable) :
    Yields (Definition.AllWritten dialect types) (table.plan dialect) := by
  intro definitions hplan
  obtain ⟨columns, hcolumns, rfl⟩ := exists_of_plan_eq_ok hplan
  obtain ⟨written, -, hwritten⟩ := Column.exists_written_of_mapM hcolumns
  have hitems := List.rel_append hwritten (table.writtenAs_keyItems dialect)
  have hne : columns.map TableItem.column ++ table.keyItems dialect ≠ [] :=
    table.items_ne_nil hplan hcolumns
  obtain ⟨options, hread⟩ := TableSentence.ofText?_createTable table.name hne
    (if dialect = .mysql then table.engine else none) hitems
  have hindexes : Definition.AllWritten dialect types (if dialect = .mysql then []
      else table.indexes.map (Definition.createIndex false table.name)) := by
    split
    · exact fun _ h => nomatch h
    · exact List.forall_mem_map.mpr fun key _ => ⟨_, .createIndex false table.name key⟩
  have hcomments : Definition.AllWritten dialect types
      (table.columns.flatMap (Column.comments dialect table.name)) := by
    intro definition hmem
    obtain ⟨column, -, hmem⟩ := List.mem_flatMap.mp hmem
    exact column.allWritten_comments dialect types table.name definition hmem
  exact (Definition.AllWritten.singleton (.createTable hitems hread)).append
    (hindexes.append hcomments)

theorem AlterTable.allWritten_plan (alter : AlterTable) :
    Yields (Definition.AllWritten dialect types) (alter.plan dialect types) := by
  have hoperations : Yields (fun parts => ∀ part ∈ parts, Definition.AllWritten dialect types part)
      (alter.operations.mapM (AlterOperation.plan dialect alter.name types)) :=
    .mapM fun operation _ => operation.allWritten_plan alter.name
  refine hoperations.map fun parts hparts definition hmem => ?_
  obtain ⟨part, hpart, hmem⟩ := List.mem_flatten.mp hmem
  exact hparts part hpart definition hmem

end

namespace TableStatement

/-- The types that columns have before the statement. -/
def types : TableStatement → ColumnTypes
  | create _ => .empty
  | alter _ types => types

theorem allWritten_plan (dialect : Dialect) (s : TableStatement) :
    Yields (Definition.AllWritten dialect s.types) (s.plan dialect) := by
  cases s with
  | create table => exact table.allWritten_plan
  | alter table types => exact table.allWritten_plan

end TableStatement

end SqlDialects
