import SqlDialects.Proofs.Table.ReadBack

/-! Statements that differ in texts only are carried out alike: they fail with the same error, or
come to as many statements, which are read alike one by one. -/

namespace SqlDialects

section

variable {dialect : Dialect} {R : String → String → Prop}

theorem find?_of_forall₂ {P : α → β → Prop} {items : List α} {others : List β} {p : α → Bool}
    {q : β → Bool} (h : List.Forall₂ P items others) (hpq : ∀ a b, P a b → p a = q b) :
    Option.Rel P (items.find? p) (others.find? q) := by
  induction h with
  | nil => exact .none
  | cons hhead _ ih =>
    rw [List.find?_cons, List.find?_cons, ← hpq _ _ hhead]
    cases p _ with
    | true => exact .some hhead
    | false => exact ih

theorem any_of_forall₂ {P : α → β → Prop} {items : List α} {others : List β} {p : α → Bool}
    {q : β → Bool} (h : List.Forall₂ P items others) (hpq : ∀ a b, P a b → p a = q b) :
    items.any p = others.any q := by
  induction h with
  | nil => rfl
  | cons hhead _ ih => rw [List.any_cons, List.any_cons, hpq _ _ hhead, ih]

/-- Plans that fail with the same error, or that are read alike definition by definition. -/
abbrev PlansAgree (dialect : Dialect) (R : String → String → Prop)
    (first second : Except Error (List Definition)) : Prop :=
  Agree (List.Forall₂ (Definition.ReadAlike dialect R)) first second

namespace Column

theorem Matches.comments (hkeeps : KeepsTexts dialect R) {first second : Column}
    (h : first.Matches R second) (table : String) :
    List.Forall₂ (Definition.ReadAlike dialect R) (first.comments dialect table)
      (second.comments dialect table) := by
  cases h with
  | intro _ hdescription =>
    unfold Column.comments
    generalize first.options.description = description at hdescription
    have hcomment {left right : String} (h : R left right) :=
      Definition.readAlike_comment hkeeps h table first.name
    cases hdescription with
    | none => cases dialect <;> exact .nil
    | some htext =>
      cases dialect with
      | postgres => exact .cons (hcomment htext) .nil
      | sqlServer => exact .cons (hcomment htext) .nil
      | mysql => exact .nil
      | sqlite => exact .nil

end Column

namespace CreateTable

section

variable {table : CreateTable} {columns : List Column}

theorem checkMarks_of_forall₂ (h : List.Forall₂ (Column.Matches R) table.columns columns) :
    { table with columns }.checkMarks dialect = table.checkMarks dialect := by
  have hfind : Option.Rel (Column.Matches R)
      (table.columns.find? fun c => c.options.autoincrement && !table.isSoleKey c.name)
      (columns.find? fun c => c.options.autoincrement && !table.isSoleKey c.name) :=
    find?_of_forall₂ h fun first second hcolumn => by
      rw [hcolumn.autoincrement_eq, hcolumn.name_eq]
  have hsole : { table with columns }.isSoleKey = table.isSoleKey := rfl
  simp only [checkMarks, hsole]
  generalize List.find? _ columns = found' at hfind ⊢
  generalize List.find? _ table.columns = found at hfind ⊢
  cases hfind with
  | none => rfl
  | some hcolumn => simp only [hcolumn.name_eq]

theorem keyItems_of_forall₂ (h : List.Forall₂ (Column.Matches R) table.columns columns) :
    { table with columns }.keyItems dialect = table.keyItems dialect := by
  have hany : (columns.any fun c => c.options.autoincrement && table.isSoleKey c.name) =
      table.columns.any fun c => c.options.autoincrement && table.isSoleKey c.name :=
    (any_of_forall₂ h fun first second hcolumn => by
      rw [hcolumn.autoincrement_eq, hcolumn.name_eq]).symm
  have hinline : { table with columns }.keyIsInline dialect = table.keyIsInline dialect :=
    congrArg (decide (Column.autoincrementMark dialect = .primaryKey) && ·) hany
  unfold keyItems
  rw [hinline]

end

/-- What creates tables that differ in texts only. -/
theorem Matches.plan_agree (hkeeps : KeepsTexts dialect R) (hne : dialect ≠ .mysql)
    {first second : CreateTable} (h : first.Matches R second) :
    PlansAgree dialect R (first.plan dialect) (second.plan dialect) := by
  cases h with
  | @intro columns h =>
    have hempty : columns.isEmpty = first.columns.isEmpty := by
      rw [Bool.eq_iff_iff, List.isEmpty_iff_length_eq_zero, List.isEmpty_iff_length_eq_zero,
        h.length_eq]
    rw [plan_eq, plan_eq, checkMarks_of_forall₂ h, hempty]
    split
    · exact .error _
    refine (Agree.mapM (fun _ _ hcolumn => hcolumn.definition_agree hkeeps) h).bind
      fun left right hcolumns => ?_
    refine .after fun _ => .after fun _ => .ok ?_
    have hitems : List.Forall₂ (fun left right => ReadAlike dialect R (left.sql dialect)
        (right.sql dialect)) (left.map .column ++ first.keyItems dialect)
        (right.map .column ++ first.keyItems dialect) := by
      refine List.rel_append ?_ (List.forall₂_same.mpr first.readAlike_keyItems)
      rw [List.forall₂_map_left_iff, List.forall₂_map_right_iff]
      exact hcolumns
    have hindexes : List.Forall₂ (Definition.ReadAlike dialect R)
        (first.indexes.map (Definition.createIndex false first.name))
        (first.indexes.map (Definition.createIndex false first.name)) := by
      refine List.forall₂_same.mpr fun definition hmem => ?_
      obtain ⟨key, _, rfl⟩ := List.mem_map.mp hmem
      exact Definition.readAlike_createIndex false first.name key
    have hcomments := List.rel_flatMap h fun _ _ hcolumn => hcolumn.comments hkeeps first.name
    simp only [definitions, keyItems_of_forall₂ h, if_neg hne]
    exact .cons (Definition.readAlike_createTable first.name hitems)
      (List.rel_append hindexes hcomments)

end CreateTable

namespace Definition

theorem readAlike_alterOne (table : String) {left right : AlterAction}
    (h : left.ReadAlike dialect R right) :
    Definition.ReadAlike dialect R (.alterTable table [left]) (.alterTable table [right]) :=
  readAlike_alterTable table (.cons h .nil)

theorem readAlike_alterPlain (table : String) {actions : List AlterAction}
    (h : ∀ action ∈ actions, action.IsPlain) :
    Definition.ReadAlike dialect R (.alterTable table actions) (.alterTable table actions) :=
  readAlike_alterTable table
    (List.forall₂_same.mpr fun action hmem => (h action hmem).readAlike)

theorem readAlike_dropIndex (name table : String) :
    Definition.ReadAlike dialect R (.dropIndex name table) (.dropIndex name table) := by
  have hname (name : String) := Identifier.readAlike_quote dialect R name
  refine ((hname name).lead (.of rfl)).follow ?_
  split
  · exact .glue (.of rfl) (hname table)
  · exact .empty

theorem readAlike_callRenameColumn (hne : dialect ≠ .mysql) (table source target : String) :
    Definition.ReadAlike dialect R (.callRenameColumn table source target)
      (.callRenameColumn table source target) := by
  have hstring (s : String) : SqlDialects.ReadAlike dialect R (quoteString s) (quoteString s) := by
    have hkeeps := Quote.keeps_of_ne hne .single s.toList
    exact .of_lex (lex_quoteString hkeeps) (by simp [NoPlaceholder, Lexeme.placeholder?])
  refine (((hstring _).lead (.of rfl)).glue (.of rfl) (hstring target)).trail ?_
  exact .of_inert (.lexed (by cases dialect <;> decide)) rfl

end Definition

namespace AlterOperation

theorem plan_one (table : String) {left right : AlterAction} (h : left.ReadAlike dialect R right) :
    PlansAgree dialect R (.ok [.alterTable table [left]]) (.ok [.alterTable table [right]]) :=
  .ok (.cons (Definition.readAlike_alterOne table h) .nil)

theorem plan_plain (table : String) {action : AlterAction} (h : action.IsPlain) :
    PlansAgree dialect R (.ok [.alterTable table [action]]) (.ok [.alterTable table [action]]) :=
  plan_one table h.readAlike

theorem renamePlan_agree (hne : dialect ≠ .mysql) (table source target : String)
    (types : ColumnTypes) :
    PlansAgree dialect R (renamePlan dialect table source target types)
      (renamePlan dialect table source target types) := by
  cases dialect with
  | mysql => exact absurd rfl hne
  | sqlServer =>
    exact .ok (.cons (Definition.readAlike_callRenameColumn hne table source target) .nil)
  | _ => exact plan_plain table trivial

theorem addKeyPlan_agree (table : String) (kind : KeyKind) (key : Key) :
    PlansAgree dialect R (addKeyPlan dialect table kind key)
      (addKeyPlan dialect table kind key) := by
  have hindex (unique : Bool) : PlansAgree dialect R (.ok [.createIndex unique table key])
      (.ok [.createIndex unique table key]) :=
    .ok (.cons (Definition.readAlike_createIndex unique table key) .nil)
  have hprimary : (AlterAction.addItem (.primaryKey key)).IsPlain := fun _ h => nomatch h
  have hunique : (AlterAction.addItem (.uniqueKey key)).IsPlain := fun _ h => nomatch h
  cases kind with
  | index => cases dialect <;> exact hindex false
  | unique =>
    cases dialect with
    | sqlite => exact hindex true
    | _ => exact plan_plain table hunique
  | primary =>
    cases dialect with
    | sqlite => exact .error _
    | _ => exact plan_plain table hprimary
  | foreign => cases dialect <;> exact .error _

theorem addForeignPlan_agree (table : String) (key : ForeignKey) :
    PlansAgree dialect R (addForeignPlan dialect table key) (addForeignPlan dialect table key) := by
  have hforeign : (AlterAction.addItem (.foreignKey key)).IsPlain := fun _ h => nomatch h
  cases dialect with
  | sqlite => exact .error _
  | _ => exact .after fun _ => plan_plain table hforeign

theorem dropKeyPlan_agree (hne : dialect ≠ .mysql) (table : String) (kind : KeyKind)
    (name : String) :
    PlansAgree dialect R (dropKeyPlan dialect table kind name)
      (dropKeyPlan dialect table kind name) := by
  have hindex : PlansAgree dialect R (.ok [.dropIndex name table]) (.ok [.dropIndex name table]) :=
    .ok (.cons (Definition.readAlike_dropIndex name table) .nil)
  cases dialect with
  | mysql => exact absurd rfl hne
  | sqlite => cases kind <;> first | exact .error _ | exact hindex
  | _ => cases kind <;> first | exact hindex | exact plan_plain table trivial

theorem dropDefaultPlan_agree (table column : String) :
    PlansAgree dialect R (dropDefaultPlan dialect table column)
      (dropDefaultPlan dialect table column) := by
  cases dialect with
  | sqlite => exact .error _
  | _ => exact plan_plain table trivial

/-- An operation without a column or a value has one plan, whatever the texts are. -/
theorem plan_same (hne : dialect ≠ .mysql) {operation : AlterOperation}
    (hcolumn : operation.column? = none)
    (hdefault : ∀ column value, operation ≠ .setDefault column value) (table : String)
    (types : ColumnTypes) :
    PlansAgree dialect R (operation.plan dialect table types)
      (operation.plan dialect table types) := by
  cases operation with
  | renameColumn source target => exact renamePlan_agree hne table source target types
  | dropColumn name => exact plan_plain table trivial
  | addKey kind key => exact addKeyPlan_agree table kind key
  | addForeign key => exact addForeignPlan_agree table key
  | dropKey kind name => exact dropKeyPlan_agree hne table kind name
  | dropDefault column => exact dropDefaultPlan_agree table column
  | setDefault column value => exact absurd rfl (hdefault column value)
  | _ => exact absurd hcolumn nofun

section

variable (hkeeps : KeepsTexts dialect R)

include hkeeps

theorem setDefaultPlan_agree (hne : dialect ≠ .mysql) {first second : Value}
    (h : first.Matches R second) (table column : String) :
    PlansAgree dialect R (setDefaultPlan dialect table column first)
      (setDefaultPlan dialect table column second) := by
  cases dialect with
  | mysql => exact absurd rfl hne
  | sqlite => exact .error _
  | postgres => exact plan_one table (AlterAction.readAlike_setDefault hkeeps h column)
  | sqlServer => exact plan_one table (AlterAction.readAlike_addDefault hkeeps h _ column)

variable {first second : Column} (h : first.Matches R second) (table : String)

include h

theorem addAutoincrementPlan_agree (key : String) :
    PlansAgree dialect R (addAutoincrementPlan dialect table first key)
      (addAutoincrementPlan dialect table second key) := by
  refine (h.definition_agree hkeeps).bind fun left right hdefinition => ?_
  simp only [soleKey, h.name_eq]
  cases dialect with
  | sqlite => exact .error _
  | _ => exact plan_one table (AlterAction.readAlike_addColumnWithKey hdefinition _)

theorem modifyPlan_agree (hne : dialect ≠ .mysql) :
    PlansAgree dialect R (modifyPlan dialect table first) (modifyPlan dialect table second) := by
  cases dialect with
  | mysql => exact absurd rfl hne
  | sqlite => exact .error _
  | postgres =>
    simp only [modifyPlan, h.autoincrement_eq, h.name_eq, h.nullable_eq]
    split
    · exact .error _
    refine h.nativeType_agree.bind ?_
    rintro type _ ⟨rfl, htype⟩
    refine .ok (.cons (Definition.readAlike_alterTable table ?_) .nil)
    refine .cons (AlterAction.readAlike_setType htype _)
      (.cons (AlterAction.IsPlain.readAlike ?_) ?_)
    · trivial
    · rw [List.forall₂_map_left_iff, List.forall₂_map_right_iff]
      exact h.default_forall₂.imp fun _ _ hvalue => AlterAction.readAlike_setDefault hkeeps hvalue _
  | sqlServer =>
    simp only [modifyPlan, h.autoincrement_eq, h.name_eq, h.nullable_eq]
    split
    · exact .error _
    refine h.nativeType_agree.bind ?_
    rintro type _ ⟨rfl, htype⟩
    refine .ok (.cons (Definition.readAlike_alterOne table
      (AlterAction.readAlike_setTypeAndNull htype _ _)) ?_)
    rw [List.forall₂_map_left_iff, List.forall₂_map_right_iff]
    exact h.default_forall₂.imp fun _ _ hvalue => Definition.readAlike_alterOne table
      (AlterAction.readAlike_addDefault hkeeps hvalue _ _)

omit hkeeps in
theorem autoincrementPlan_agree (hne : dialect ≠ .mysql) (key : String) :
    PlansAgree dialect R (autoincrementPlan dialect table first key)
      (autoincrementPlan dialect table second key) := by
  simp only [autoincrementPlan, h.requireInteger_eq, soleKey, h.name_eq]
  refine .after fun _ => ?_
  cases dialect with
  | mysql => exact absurd rfl hne
  | postgres =>
    refine .ok (.cons (Definition.readAlike_alterPlain table ?_) .nil)
    simp [AlterAction.IsPlain]
  | sqlite => exact .error _
  | sqlServer => exact .error _

end

/-- What carries out operations that differ in texts only. -/
theorem Matches.plan_agree (hkeeps : KeepsTexts dialect R) (hne : dialect ≠ .mysql)
    {first second : AlterOperation} (h : first.Matches R second) (table : String)
    (types : ColumnTypes) :
    PlansAgree dialect R (first.plan dialect table types) (second.plan dialect table types) := by
  cases h with
  | addColumn h =>
    exact (h.definition_agree hkeeps).map fun left right hdefinition =>
      .cons (Definition.readAlike_alterOne table (AlterAction.readAlike_addColumn hdefinition))
        (h.comments hkeeps table)
  | addAutoincrement h key =>
    exact (addAutoincrementPlan_agree hkeeps h table key).map fun _ _ hplan =>
      List.rel_append hplan (h.comments hkeeps table)
  | modifyColumn h =>
    exact (modifyPlan_agree hkeeps h table hne).map fun _ _ hplan =>
      List.rel_append hplan (h.comments hkeeps table)
  | autoincrement h key => exact autoincrementPlan_agree h table hne key
  | setDefault h column => exact setDefaultPlan_agree hkeeps hne h table column
  | same hcolumn hdefault => exact plan_same hne hcolumn hdefault table types

end AlterOperation

/-- What carries out changes that differ in texts only. -/
theorem AlterTable.Matches.plan_agree (hkeeps : KeepsTexts dialect R) (hne : dialect ≠ .mysql)
    {first second : AlterTable} (h : first.Matches R second) (types : ColumnTypes) :
    PlansAgree dialect R (first.plan dialect types) (second.plan dialect types) := by
  cases h with
  | intro h =>
    exact (Agree.mapM (fun _ _ hoperation => hoperation.plan_agree hkeeps hne first.name types)
      h).map fun _ _ hplans => List.rel_flatten hplans

end

/-- Texts in statements about tables do not break out of their literals. Two statements that differ
in texts only fail with the same error or come to as many statements, and each of these is read
like its counterpart, lexeme by lexeme, except for string literals: where one is read as a text, the
other is read as the text that stands for it. None of the texts gets lost: each is read back from
one of the statements. -/
theorem TableStatement.texts_stay_in_literals {dialect : Dialect} (hne : dialect ≠ .mysql)
    {R : String → String → Prop} {first second : TableStatement} (h : first.Matches R second) :
    Agree (fun lefts rights : List Compiled =>
        List.Forall₂ (fun left right => ReadAlike dialect R left.sql right.sql) lefts rights ∧
          Compiled.ReadBack dialect (first.texts dialect) lefts ∧
          Compiled.ReadBack dialect (second.texts dialect) rights)
      (first.compile dialect) (second.compile dialect) := by
  have hkeeps := keepsTexts_of_ne hne R
  have hcompile {left right : Except Error (List Definition)}
      (hplan : PlansAgree dialect R left right) :
      Agree (List.Forall₂ fun left right : Compiled => ReadAlike dialect R left.sql right.sql)
        (left >>= fun definitions => pure (definitions.map (Definition.compile dialect)))
        (right >>= fun definitions => pure (definitions.map (Definition.compile dialect))) :=
    hplan.map fun _ _ hdefinitions => by
      rw [List.forall₂_map_left_iff, List.forall₂_map_right_iff]
      exact hdefinitions
  have hagree : Agree (List.Forall₂ fun left right : Compiled =>
      ReadAlike dialect R left.sql right.sql) (first.compile dialect) (second.compile dialect) := by
    cases h with
    | create h => exact hcompile (h.plan_agree hkeeps hne)
    | alter h types => exact hcompile (h.plan_agree hkeeps hne types)
  have hread (s : TableStatement) :
      Yields (Compiled.ReadBack dialect (s.texts dialect)) (s.compile dialect) :=
    s.readBack_compile fun text _ => Quote.keeps_of_ne hne .single text.toList
  exact hagree.and_yields (hread first) (hread second)

/-- A default and a description that would end their literals if they could. -/
theorem TableStatement.texts_stay_in_literals_of_quotes :
    let table (text description : String) : TableStatement := .create
      { name := "t"
        columns := [⟨"c", .string,
          { default := some (.string text), description := some description }⟩] }
    let R (first second : String) : Prop :=
      (first = "x" ∧ second = "'); DROP TABLE t; --") ∨ (first = "" ∧ second = "it's")
    Dialect.sqlServer ≠ .mysql ∧ (table "x" "").Matches R (table "'); DROP TABLE t; --" "it's") ∧
      ∃ lefts rights, (table "x" "").compile .sqlServer = .ok lefts ∧
        (table "'); DROP TABLE t; --" "it's").compile .sqlServer = .ok rights ∧
        List.Forall₂ (fun left right : Compiled => ReadAlike .sqlServer R left.sql right.sql)
          lefts rights ∧
        Compiled.ReadBack .sqlServer ["x", ""] lefts ∧
        Compiled.ReadBack .sqlServer ["'); DROP TABLE t; --", "it's"] rights := by
  intro table R
  have hne : Dialect.sqlServer ≠ .mysql := by decide
  have hmatches : (table "x" "").Matches R (table "'); DROP TABLE t; --" "it's") := by
    refine .create (.intro _ (.cons (.intro _ (.some (.text ?_)) (.some ?_)) .nil))
    · exact .inl ⟨rfl, rfl⟩
    · exact .inr ⟨rfl, rfl⟩
  obtain ⟨lefts, hlefts⟩ : ∃ lefts, (table "x" "").compile .sqlServer = .ok lefts := ⟨_, rfl⟩
  obtain ⟨rights, hrights⟩ : ∃ rights,
      (table "'); DROP TABLE t; --" "it's").compile .sqlServer = .ok rights := ⟨_, rfl⟩
  have hagree := texts_stay_in_literals hne hmatches
  rw [hlefts, hrights] at hagree
  cases hagree with
  | ok hread => exact ⟨hne, hmatches, lefts, rights, hlefts, hrights, hread⟩

end SqlDialects
