import SqlDialects.Proofs.Lexing.Literal
import SqlDialects.Proofs.Result
import SqlDialects.Proofs.Table.Texts

/-! The texts in statements about tables stay in their literals. Each piece of a statement is read
alike with one text or another in it, and so are the statements. -/

namespace SqlDialects

/-- Related texts stand for themselves inside string literals. -/
def KeepsTexts (dialect : Dialect) (R : String → String → Prop) : Prop :=
  ∀ first second, R first second →
    Quote.single.Keeps dialect first.toList ∧ Quote.single.Keeps dialect second.toList

/-- Where backslashes escape nothing, all texts do. -/
theorem keepsTexts_of_ne {dialect : Dialect} (h : dialect ≠ .mysql) (R : String → String → Prop) :
    KeepsTexts dialect R := fun first second _ =>
  ⟨Quote.keeps_of_ne h .single first.toList, Quote.keeps_of_ne h .single second.toList⟩

section

variable {dialect : Dialect} {R : String → String → Prop}

namespace Column

theorem yields_oneSize {column : Column} {type : String} (h : ReadAlike dialect R type type) :
    Yields (fun text => ReadAlike dialect R text text) (column.oneSize dialect type) := by
  unfold oneSize
  split
  · exact .ok h
  · rintro _ ⟨⟩

theorem readAlike_decimalType (column : Column) :
    ReadAlike dialect R column.decimalType column.decimalType := by
  have hnumber (n : UInt32) := readAlike_nat dialect R n.toNat
  unfold decimalType
  split
  · exact (((hnumber _).lead (.of rfl)).glue (.of rfl) (hnumber _)).trail (.of rfl)
  · exact ((hnumber _).lead (.of rfl)).trail (.of rfl)
  · exact .word rfl

theorem readAlike_withLength (column : Column) {type : String}
    (h : ReadAlike dialect R type type) :
    ReadAlike dialect R (column.withLength type) (column.withLength type) :=
  (h.glue (.of rfl) (readAlike_nat dialect R _)).trail (.of rfl)

theorem yields_mysqlType (column : Column) :
    Yields (fun type => ReadAlike .mysql R type type) column.mysqlType := by
  unfold mysqlType
  split
  case h_1 | h_2 | h_6 | h_7 =>
    split <;> first | exact .ok (.word rfl) | rintro _ ⟨⟩
  case h_3 | h_5 => exact yields_oneSize (.word rfl)
  case h_4 => exact yields_oneSize column.readAlike_decimalType
  case h_8 | h_9 => exact yields_oneSize (column.readAlike_withLength (.word rfl))
  all_goals exact .ok (.word rfl)

theorem yields_postgresType (column : Column) :
    Yields (fun type => ReadAlike .postgres R type type) column.postgresType := by
  unfold postgresType
  split
  case h_1 | h_2 => split <;> first | exact .ok (.word rfl) | rintro _ ⟨⟩
  case h_3 | h_5 => exact yields_oneSize (.word rfl)
  case h_4 => exact yields_oneSize column.readAlike_decimalType
  case h_8 | h_9 => exact yields_oneSize (column.readAlike_withLength (.word rfl))
  all_goals exact .ok (.word rfl)

theorem yields_sqliteType (column : Column) :
    Yields (fun type => ReadAlike .sqlite R type type) column.sqliteType := by
  unfold sqliteType
  split
  case h_1 | h_2 => split <;> first | exact .ok (.word rfl) | rintro _ ⟨⟩
  case h_3 | h_5 => exact yields_oneSize (.word rfl)
  case h_4 => exact yields_oneSize column.readAlike_decimalType
  case h_8 | h_9 => exact yields_oneSize (column.readAlike_withLength (.word rfl))
  all_goals exact .ok (.word rfl)

theorem yields_sqlServerType (column : Column) :
    Yields (fun type => ReadAlike .sqlServer R type type) column.sqlServerType := by
  unfold sqlServerType
  split
  case h_1 | h_2 | h_6 | h_7 =>
    split <;> first | exact .ok (.word rfl) | rintro _ ⟨⟩
  case h_3 | h_5 => exact yields_oneSize (.word rfl)
  case h_4 => exact yields_oneSize column.readAlike_decimalType
  case h_8 | h_9 => exact yields_oneSize (column.readAlike_withLength (.word rfl))
  all_goals exact .ok (.word rfl)

/-- A native type has neither quotes nor placeholders in it. -/
theorem yields_nativeType (column : Column) :
    Yields (fun type => ReadAlike dialect R type type) (column.nativeType dialect) := by
  cases dialect with
  | mysql =>
    have hsign : Follows .mysql R column.mysqlSign column.mysqlSign := by
      unfold mysqlSign
      split <;> first | exact .empty | exact .literal (.of rfl)
    have hmap : column.nativeType .mysql =
        column.mysqlType >>= fun type => pure (type ++ column.mysqlSign) :=
      (bind_pure_comp _ column.mysqlType).symm
    rw [hmap]
    exact column.yields_mysqlType.map fun type h => h.follow hsign
  | postgres => exact column.yields_postgresType
  | sqlite => exact column.yields_sqliteType
  | sqlServer => exact column.yields_sqlServerType

end Column

/-- Literals of values that differ in texts only. -/
theorem Value.Matches.readAlike (hkeeps : KeepsTexts dialect R) {first second : Value}
    (h : first.Matches R second) :
    ReadAlike dialect R (first.literal dialect) (second.literal dialect) := by
  cases h with
  | text h =>
    obtain ⟨hfirst, hsecond⟩ := hkeeps _ _ h
    exact readAlike_quoteString h hfirst hsecond
  | same h => exact readAlike_literal h dialect R

namespace ColumnDefinition

/-- The definition up to its default. -/
def headSql (dialect : Dialect) (definition : ColumnDefinition) : String :=
  Identifier.quote dialect definition.name ++ " " ++ definition.nativeType ++
    definition.autoincrement.sql ++ (if definition.nullable then "" else " NOT NULL")

def defaultSql (dialect : Dialect) (definition : ColumnDefinition) : String :=
  match definition.default with
  | none => ""
  | some value => " DEFAULT " ++ value.literal dialect

def commentSql (definition : ColumnDefinition) : String :=
  match definition.comment with
  | none => ""
  | some text => " COMMENT " ++ quoteString text

theorem sql_eq (dialect : Dialect) (definition : ColumnDefinition) :
    definition.sql dialect =
      definition.headSql dialect ++ definition.defaultSql dialect ++ definition.commentSql := rfl

end ColumnDefinition

namespace Column

/-- The definition of the column with a native type. -/
def defined (dialect : Dialect) (column : Column) (type : String) : ColumnDefinition where
  name := column.name
  nativeType := type
  autoincrement := if column.options.autoincrement then autoincrementMark dialect else .none
  nullable := column.options.nullable
  default := column.options.default
  comment := if dialect = .mysql then column.options.description else none

theorem definition_eq (dialect : Dialect) (column : Column) :
    column.definition dialect =
      (if column.options.autoincrement then column.requireInteger else .ok ()) >>= fun _ =>
        column.nativeType dialect >>= fun type => pure (column.defined dialect type) := by
  unfold definition defined
  cases column.options.autoincrement <;> rfl

theorem follows_autoincrementMark (dialect other : Dialect) :
    Follows dialect R (autoincrementMark other).sql (autoincrementMark other).sql := by
  cases other with
  | mysql => exact .glue (.of rfl) (.word rfl)
  | postgres => exact .empty
  | sqlite => exact .literal (.of rfl)
  | sqlServer => exact .glue (.of rfl) (.word rfl)

/-- What stands in front of the texts of a definition. -/
theorem readAlike_headSql (column : Column) {type : String}
    (htype : ReadAlike dialect R type type) :
    ReadAlike dialect R ((column.defined dialect type).headSql dialect)
      ((column.defined dialect type).headSql dialect) := by
  have hname := Identifier.readAlike_quote dialect R column.name
  refine ((hname.glue (.of rfl) htype).follow ?_).follow ?_
  · simp only [defined]
    split
    · exact follows_autoincrementMark dialect dialect
    · exact .empty
  · split
    · exact .empty
    · exact .literal (.of rfl)

theorem Matches.follows_defaultSql (hkeeps : KeepsTexts dialect R) {first second : Column}
    (h : first.Matches R second) (type : String) :
    Follows dialect R ((first.defined dialect type).defaultSql dialect)
      ((second.defined dialect type).defaultSql dialect) := by
  cases h with
  | intro hdefault _ =>
    simp only [defined, ColumnDefinition.defaultSql]
    generalize first.options.default = default at hdefault
    cases hdefault with
    | some hvalue => exact .glue (.of rfl) (hvalue.readAlike hkeeps)
    | none => exact .empty

theorem Matches.follows_commentSql (hkeeps : KeepsTexts dialect R) {first second : Column}
    (h : first.Matches R second) (type : String) :
    Follows dialect R (first.defined dialect type).commentSql
      (second.defined dialect type).commentSql := by
  cases h with
  | intro _ hdescription =>
    simp only [defined, ColumnDefinition.commentSql]
    by_cases hmysql : dialect = .mysql
    · rw [if_pos hmysql, if_pos hmysql]
      generalize first.options.description = description at hdescription
      cases hdescription with
      | some htext =>
        obtain ⟨hleft, hright⟩ := hkeeps _ _ htext
        exact .glue (.of rfl) (readAlike_quoteString htext hleft hright)
      | none => exact .empty
    · rw [if_neg hmysql, if_neg hmysql]
      exact .empty

theorem Matches.readAlike_defined (hkeeps : KeepsTexts dialect R) {first second : Column}
    (h : first.Matches R second) {type : String} (htype : ReadAlike dialect R type type) :
    ReadAlike dialect R ((first.defined dialect type).sql dialect)
      ((second.defined dialect type).sql dialect) := by
  have hhead : (second.defined dialect type).headSql dialect =
      (first.defined dialect type).headSql dialect := by
    cases h; rfl
  rw [ColumnDefinition.sql_eq, ColumnDefinition.sql_eq, hhead]
  exact ((first.readAlike_headSql htype).follow (h.follows_defaultSql hkeeps type)).follow
    (h.follows_commentSql hkeeps type)

section

variable {first second : Column}

theorem Matches.name_eq (h : first.Matches R second) : second.name = first.name := by
  cases h; rfl

theorem Matches.autoincrement_eq (h : first.Matches R second) :
    second.options.autoincrement = first.options.autoincrement := by
  cases h; rfl

theorem Matches.nullable_eq (h : first.Matches R second) :
    second.options.nullable = first.options.nullable := by
  cases h; rfl

/-- Nothing on both sides, or related defaults. -/
theorem Matches.default_forall₂ (h : first.Matches R second) :
    List.Forall₂ (Value.Matches R) first.options.default.toList second.options.default.toList := by
  cases h with
  | intro hdefault _ =>
    generalize first.options.default = default at hdefault
    cases hdefault with
    | none => exact .nil
    | some hvalue => exact .cons hvalue .nil

theorem Matches.requireInteger_eq (h : first.Matches R second) :
    second.requireInteger = first.requireInteger := by
  cases h; rfl

/-- One native type on both sides. -/
theorem Matches.nativeType_agree (h : first.Matches R second) :
    Agree (fun left right => left = right ∧ ReadAlike dialect R left left)
      (first.nativeType dialect) (second.nativeType dialect) := by
  have hnative : second.nativeType dialect = first.nativeType dialect := by
    cases h; cases dialect <;> rfl
  rw [hnative]
  exact .same fun type htype => ⟨rfl, first.yields_nativeType type htype⟩

/-- The definitions of columns that differ in texts only. -/
theorem Matches.definition_agree (hkeeps : KeepsTexts dialect R) (h : first.Matches R second) :
    Agree (fun left right => ReadAlike dialect R (left.sql dialect) (right.sql dialect))
      (first.definition dialect) (second.definition dialect) := by
  rw [definition_eq, definition_eq, h.autoincrement_eq, h.requireInteger_eq]
  refine .after fun _ => h.nativeType_agree.map ?_
  rintro type _ ⟨rfl, hread⟩
  exact h.readAlike_defined hkeeps hread

end

end Column

/-- Definitions that are read alike. -/
def Definition.ReadAlike (dialect : Dialect) (R : String → String → Prop)
    (first second : Definition) : Prop :=
  SqlDialects.ReadAlike dialect R (first.sql dialect) (second.sql dialect)

namespace Definition

-- The words around the three literals of a comment that is a property.

theorem leads_propertyValue : Leads .sqlServer
    "EXEC sp_addextendedproperty @name = N'MS_Description', @value = " :=
  .of_inert (.lexed (by decide)) rfl

theorem glues_propertyTable : Glues .sqlServer
    ", @level0type = N'SCHEMA', @level0name = N'dbo', @level1type = N'TABLE', @level1name = " :=
  .of_inert (.lexed (by decide)) rfl

theorem glues_propertyColumn : Glues .sqlServer ", @level2type = N'COLUMN', @level2name = " :=
  .of_inert (.lexed (by decide)) rfl

theorem readAlike_comment (hkeeps : KeepsTexts dialect R) {first second : String}
    (h : R first second) (table column : String) :
    Definition.ReadAlike dialect R (.comment table column first)
      (.comment table column second) := by
  obtain ⟨hfirst, hsecond⟩ := hkeeps _ _ h
  unfold Definition.ReadAlike sql commentSql
  cases dialect with
  | sqlServer =>
    have hname (name : String) : SqlDialects.ReadAlike .sqlServer R (nationalString name)
        (nationalString name) := by
      have hkeeps : Quote.single.Keeps .sqlServer name.toList :=
        Quote.keeps_of_ne (by decide) .single name.toList
      refine .of_lex (IsLiteral.national.lex_eq hkeeps) ?_
      simp [NoPlaceholder, Lexeme.placeholder?]
    have htext : SqlDialects.ReadAlike .sqlServer R (nationalString first)
        (nationalString second) :=
      ⟨_, _, IsLiteral.national.lex_eq hfirst, IsLiteral.national.lex_eq hsecond,
        .cons (.same rfl) (.cons (.text h) .nil)⟩
    exact ((htext.lead leads_propertyValue).glue glues_propertyTable (hname table)).glue
      glues_propertyColumn (hname column)
  | _ =>
    exact (((Identifier.readAlike_quote _ R table).lead (.of rfl)).glue (.of rfl)
      (Identifier.readAlike_quote _ R column)).glue (.of rfl)
      (readAlike_quoteString h hfirst hsecond)

end Definition

section

variable (dialect R)

theorem Key.readAlike_constraintSql (key : Key) {word : String}
    (hword : ReadAlike dialect R word word) :
    ReadAlike dialect R (key.constraintSql dialect word) (key.constraintSql dialect word) :=
  ((((Identifier.readAlike_quote dialect R key.name).lead (.of rfl)).glue (.of rfl) hword).glue
    (.of rfl) (Identifier.readAlike_quoteList dialect R key.columns)).trail (.of rfl)

theorem ForeignKey.readAlike_sql (key : ForeignKey) :
    ReadAlike dialect R (key.sql dialect) (key.sql dialect) := by
  have hname (name : String) := Identifier.readAlike_quote dialect R name
  have hnames (names : List String) := Identifier.readAlike_quoteList dialect R names
  have haction (action : ReferentialAction) : ReadAlike dialect R action.sql action.sql := by
    cases action <;> exact .word rfl
  have hkey : ReadAlike dialect R
      ("CONSTRAINT " ++ Identifier.quote dialect key.name ++ " FOREIGN KEY (" ++
        Identifier.quoteList dialect key.columns)
      ("CONSTRAINT " ++ Identifier.quote dialect key.name ++ " FOREIGN KEY (" ++
        Identifier.quoteList dialect key.columns) :=
    ((hname key.name).lead (.of rfl)).glue (.of rfl) (hnames key.columns)
  unfold sql
  refine ((((hkey.glue (.of rfl) (hname key.refTable)).glue (.of rfl)
    (hnames key.refColumns)).trail (.of rfl)).follow ?_).follow ?_
  · split
    · exact .empty
    · exact .glue (.of rfl) (haction _)
  · split
    · exact .empty
    · exact .glue (.of rfl) (haction _)

/-- The items of a table that are no columns. -/
theorem TableItem.readAlike_sql {item : TableItem} (h : ∀ definition, item ≠ .column definition) :
    ReadAlike dialect R (item.sql dialect) (item.sql dialect) := by
  cases item with
  | column definition => exact absurd rfl (h definition)
  | primaryKey key => exact key.readAlike_constraintSql dialect R (.word rfl)
  | uniqueKey key => exact key.readAlike_constraintSql dialect R (.word rfl)
  | index key =>
    exact (((Identifier.readAlike_quote dialect R key.name).lead (.of rfl)).glue (.of rfl)
      (Identifier.readAlike_quoteList dialect R key.columns)).trail (.of rfl)
  | foreignKey key => exact key.readAlike_sql dialect R

end

/-- Actions that are read alike. -/
def AlterAction.ReadAlike (dialect : Dialect) (R : String → String → Prop)
    (first second : AlterAction) : Prop :=
  SqlDialects.ReadAlike dialect R (first.sql dialect) (second.sql dialect)

namespace AlterAction

theorem readAlike_alterColumn (column : String) :
    SqlDialects.ReadAlike dialect R (alterColumn dialect column) (alterColumn dialect column) := by
  unfold alterColumn
  split
  · exact (Identifier.readAlike_quote .mysql R column).lead (.of rfl)
  · exact (Identifier.readAlike_quote dialect R column).lead (.of rfl)

theorem leads_addWord (other : Dialect) : Leads dialect (addWord other) := by
  cases other <;> exact .of rfl

/-- Whether an action has neither a value nor a type nor a column with both in it. -/
def IsPlain : AlterAction → Prop
  | addColumn _ | addColumnWithKey _ _ | modifyColumn _ | modifyWithKey _ _ => False
  | addItem item => ∀ definition, item ≠ .column definition
  | setType _ _ | setTypeAndNull _ _ _ | changeColumn _ _ _ => False
  | setDefault _ _ | addDefault _ _ _ => False
  | _ => True

/-- A plain action has names and key words in it, and nothing else. -/
theorem IsPlain.readAlike {action : AlterAction} (h : action.IsPlain) :
    action.ReadAlike dialect R action := by
  have hname (name : String) := Identifier.readAlike_quote dialect R name
  have hcolumn (column : String) :
      SqlDialects.ReadAlike dialect R (alterColumn dialect column) (alterColumn dialect column) :=
    readAlike_alterColumn column
  cases action with
  | addItem item => exact (item.readAlike_sql dialect R h).lead (.of rfl)
  | setNullable column nullable =>
    refine (hcolumn column).trail ?_
    cases nullable <;> exact .of rfl
  | dropDefault column => exact (hcolumn column).trail (.of rfl)
  | addIdentity column => exact (hcolumn column).trail (.of rfl)
  | renameColumn source target =>
    exact ((hname source).lead (.of rfl)).glue (.of rfl) (hname target)
  | dropPrimaryKey => exact .word rfl
  | dropColumn name => exact (hname name).lead (.of rfl)
  | dropIndex name => exact (hname name).lead (.of rfl)
  | dropForeignKey name => exact (hname name).lead (.of rfl)
  | dropConstraint name => exact (hname name).lead (.of rfl)
  | renameTo name => exact (hname name).lead (.of rfl)
  | _ => exact h.elim

section

variable {left right : ColumnDefinition}
  (h : SqlDialects.ReadAlike dialect R (left.sql dialect) (right.sql dialect))

include h

theorem readAlike_addColumn : (addColumn left).ReadAlike dialect R (addColumn right) :=
  h.lead (leads_addWord dialect)

theorem readAlike_addColumnWithKey (key : Key) :
    (addColumnWithKey left key).ReadAlike dialect R (addColumnWithKey right key) := by
  refine (h.lead (leads_addWord dialect)).glue ?_
    (key.readAlike_constraintSql dialect R (.word rfl))
  split <;> exact .of rfl

end

section

variable {type : String} (h : SqlDialects.ReadAlike dialect R type type) (column : String)

include h

theorem readAlike_setType : (setType column type).ReadAlike dialect R (setType column type) :=
  (readAlike_alterColumn column).glue (.of rfl) h

theorem readAlike_setTypeAndNull (nullable : Bool) :
    (setTypeAndNull column type nullable).ReadAlike dialect R
      (setTypeAndNull column type nullable) := by
  refine ((readAlike_alterColumn column).glue (.of rfl) h).trail ?_
  cases nullable <;> exact .of rfl

end

section

variable {first second : Value} (hkeeps : KeepsTexts dialect R) (h : first.Matches R second)

include hkeeps h

theorem readAlike_setDefault (column : String) :
    (setDefault column first).ReadAlike dialect R (setDefault column second) :=
  (readAlike_alterColumn column).glue (.of rfl) (h.readAlike hkeeps)

theorem readAlike_addDefault (constraint column : String) :
    (addDefault constraint column first).ReadAlike dialect R
      (addDefault constraint column second) :=
  (((Identifier.readAlike_quote dialect R constraint).lead (.of rfl)).glue (.of rfl)
    (h.readAlike hkeeps)).glue (.of rfl) (Identifier.readAlike_quote dialect R column)

end

end AlterAction

namespace Definition

theorem readAlike_createTable (name : String) {items others : List TableItem}
    (h : List.Forall₂ (fun left right => SqlDialects.ReadAlike dialect R (left.sql dialect)
      (right.sql dialect)) items others) :
    Definition.ReadAlike dialect R (.createTable name items none)
      (.createTable name others none) := by
  have hlines : List.Forall₂ (SqlDialects.ReadAlike dialect R)
      (items.map fun item => "    " ++ item.sql dialect)
      (others.map fun item => "    " ++ item.sql dialect) := by
    rw [List.forall₂_map_left_iff, List.forall₂_map_right_iff]
    exact h.imp fun left right hitem => hitem.lead (.of rfl)
  unfold Definition.ReadAlike sql
  exact ((((Identifier.readAlike_quote dialect R name).lead (.of rfl)).glue (.of rfl)
    (.join (.of rfl) hlines)).trail (.of rfl)).follow .empty

theorem readAlike_alterTable (table : String) {actions others : List AlterAction}
    (h : List.Forall₂ (AlterAction.ReadAlike dialect R) actions others) :
    Definition.ReadAlike dialect R (.alterTable table actions) (.alterTable table others) := by
  have hactions : List.Forall₂ (SqlDialects.ReadAlike dialect R)
      (actions.map (AlterAction.sql dialect)) (others.map (AlterAction.sql dialect)) := by
    rw [List.forall₂_map_left_iff, List.forall₂_map_right_iff]
    exact h
  unfold Definition.ReadAlike sql
  exact ((Identifier.readAlike_quote dialect R table).lead (.of rfl)).glue (.of rfl)
    (.join (.of rfl) hactions)

theorem readAlike_createIndex (unique : Bool) (table : String) (key : Key) :
    Definition.ReadAlike dialect R (.createIndex unique table key)
      (.createIndex unique table key) := by
  have hname (name : String) := Identifier.readAlike_quote dialect R name
  have hword : Leads dialect (if unique then "CREATE UNIQUE INDEX " else "CREATE INDEX ") := by
    cases unique <;> exact .of rfl
  unfold Definition.ReadAlike sql
  exact ((((hname key.name).lead hword).glue (.of rfl) (hname table)).glue (.of rfl)
    (Identifier.readAlike_quoteList dialect R key.columns)).trail (.of rfl)

end Definition

end

end SqlDialects
