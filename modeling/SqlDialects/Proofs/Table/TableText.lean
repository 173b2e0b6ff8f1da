import SqlDialects.Proofs.Table.ColumnText
import SqlDialects.Proofs.Table.Plan

/-! The statements that create a table and what belongs to it, read off their texts: the lines of
the table with whatever follows them, an index, and the comment of a column. -/

namespace SqlDialects

open Text.Reader Identifier

namespace Text.Reader

/-- All that is left of the text. -/
def everything : Reader (List Char) := fun text => some (text, [])

end Text.Reader

namespace ReferentialAction

def readers : List (String × Text.Reader ReferentialAction) :=
  all.map fun action => (action.sql, pure action)

/-- The action behind a phrase, if the phrase is there. -/
def readBehind (phrase : String) : Text.Reader (Option ReferentialAction) := do
  if ← takes phrase then return some (← behind readers) else return none

def sqlBehind (phrase : String) : Option ReferentialAction → String
  | none => ""
  | some action => phrase ++ action.sql

theorem readBehind_append {phrase : String} {rest : List Char}
    (h : phrase.toList.isPrefixOf rest = false) (action : Option ReferentialAction) :
    readBehind phrase ((sqlBehind phrase action).toList ++ rest) = some (action, rest) := by
  cases action with
  | none =>
    show readBehind phrase rest = _
    rw [readBehind, ite_takes_of_missed (takes_of_not_isPrefixOf h)]
    rfl
  | some action =>
    have haction : behind readers (action.sql.toList ++ rest) = some (action, rest) := by
      cases action <;> rw [sql, behind_append rfl] <;> rfl
    rw [sqlBehind, String.toList_append, List.append_assoc, readBehind, ite_takes_append,
      bind_of_eq haction]
    rfl

end ReferentialAction

/-- One line of a table as it is written. -/
inductive TableLine where
  | column (column : WrittenColumn)
  | primaryKey (key : Key)
  | uniqueKey (key : Key)
  | index (key : Key)
  | foreignKey (key : ForeignKey)
deriving DecidableEq, Repr

namespace TableLine

variable (dialect : Dialect)

/-- What stands behind the name and the kind of a foreign key. -/
def readForeignKey (name : String) : Text.Reader TableLine := do
  let columns ← readNames dialect
  expect " REFERENCES "
  let refTable ← readName dialect
  expect " ("
  let refColumns ← readNames dialect
  let onDelete ← ReferentialAction.readBehind " ON DELETE "
  let onUpdate ← ReferentialAction.readBehind " ON UPDATE "
  return .foreignKey { name, columns, refTable, refColumns, onDelete, onUpdate }

/-- What stands behind the name of a constraint. -/
def constraintReaders (name : String) : List (String × Text.Reader TableLine) := [
  (" PRIMARY KEY (", do return .primaryKey ⟨name, ← readNames dialect⟩),
  (" UNIQUE (", do return .uniqueKey ⟨name, ← readNames dialect⟩),
  (" FOREIGN KEY (", readForeignKey dialect name)]

def read : Text.Reader TableLine := do
  if ← takes "CONSTRAINT " then
    behind (constraintReaders dialect (← readName dialect))
  else if ← takes "INDEX " then
    let name ← readName dialect
    expect " ("
    return .index ⟨name, ← readNames dialect⟩
  else
    return .column (← WrittenColumn.read dialect)

def toText : TableLine → List Char
  | column written => written.toText dialect
  | primaryKey key => (key.constraintSql dialect "PRIMARY KEY").toList
  | uniqueKey key => (key.constraintSql dialect "UNIQUE").toList
  | index key => ((TableItem.index key).sql dialect).toList
  | foreignKey key => (key.sql dialect).toList

def IsPlain : TableLine → Prop
  | column written => written.IsPlain
  | _ => True

end TableLine

theorem Key.toList_constraintSql {dialect : Dialect} (key : Key) {word phrase : String}
    (h : phrase = " " ++ word ++ " (") (rest : List Char) :
    (key.constraintSql dialect word).toList ++ rest =
      "CONSTRAINT ".toList ++ ((quote dialect key.name).toList ++ (phrase.toList ++
        ((quoteList dialect key.columns).toList ++ (")".toList ++ rest)))) := by
  have hsql : key.constraintSql dialect word = "CONSTRAINT " ++ quote dialect key.name ++ " " ++
      word ++ " (" ++ quoteList dialect key.columns ++ ")" := rfl
  simp only [h, hsql, String.toList_append, List.append_assoc]

theorem ForeignKey.toList_sql {dialect : Dialect} (key : ForeignKey) (rest : List Char) :
    (key.sql dialect).toList ++ rest =
      "CONSTRAINT ".toList ++ ((quote dialect key.name).toList ++ (" FOREIGN KEY (".toList ++
        ((quoteList dialect key.columns).toList ++ (")".toList ++ (" REFERENCES ".toList ++
          ((quote dialect key.refTable).toList ++ (" (".toList ++
            ((quoteList dialect key.refColumns).toList ++ (")".toList ++
              ((ReferentialAction.sqlBehind " ON DELETE " key.onDelete).toList ++
                ((ReferentialAction.sqlBehind " ON UPDATE " key.onUpdate).toList ++
                  rest))))))))))) := by
  have hsql : key.sql dialect = "CONSTRAINT " ++ quote dialect key.name ++ " FOREIGN KEY (" ++
      quoteList dialect key.columns ++ ") REFERENCES " ++ quote dialect key.refTable ++ " (" ++
      quoteList dialect key.refColumns ++ ")" ++
      ReferentialAction.sqlBehind " ON DELETE " key.onDelete ++
      ReferentialAction.sqlBehind " ON UPDATE " key.onUpdate := by
    unfold sql ReferentialAction.sqlBehind
    cases key.onDelete <;> cases key.onUpdate <;> rfl
  have hclose : ") REFERENCES ".toList = ")".toList ++ " REFERENCES ".toList := rfl
  rw [hsql]
  simp only [String.toList_append, hclose, List.append_assoc]

namespace TableLine

variable {dialect : Dialect} {rest : List Char}

theorem readConstraint_eq {key : Key} {word phrase : String}
    (hphrase : phrase = " " ++ word ++ " (") {reader : Text.Reader TableLine} {line : TableLine}
    (hfind : ∀ rest, (constraintReaders dialect key.name).find? (fun (phrase', _) =>
      phrase'.toList.isPrefixOf (phrase.toList ++ rest)) = some (phrase, reader))
    (hread : reader ((quoteList dialect key.columns).toList ++ (")".toList ++ rest)) =
      some (line, rest)) :
    read dialect ((key.constraintSql dialect word).toList ++ rest) = some (line, rest) := by
  have hname : EndsPath dialect (phrase.toList ++
      ((quoteList dialect key.columns).toList ++ (")".toList ++ rest))) := by
    refine endsPath_blank phrase ?_ _
    rw [hphrase, String.toList_append, String.toList_append]
    rfl
  rw [key.toList_constraintSql hphrase, read, ite_takes_append,
    bind_of_eq (readName_quote key.name hname), behind_append (hfind _), hread]

theorem read_foreignKey (key : ForeignKey) (hrest : EndsLine rest) :
    read dialect ((key.sql dialect).toList ++ rest) = some (.foreignKey key, rest) := by
  have hupdate : " ON UPDATE ".toList.isPrefixOf rest = false :=
    hrest.isPrefixOf_eq_false (by decide) _
  have hdelete : " ON DELETE ".toList.isPrefixOf
      ((ReferentialAction.sqlBehind " ON UPDATE " key.onUpdate).toList ++ rest) = false := by
    cases key.onUpdate with
    | none => exact hrest.isPrefixOf_eq_false (by decide) _
    | some action =>
      rw [ReferentialAction.sqlBehind, String.toList_append, List.append_assoc]
      rfl
  rw [key.toList_sql, read, ite_takes_append,
    bind_of_eq (readName_quote key.name (endsPath_blank " FOREIGN KEY (" rfl _)),
    behind_append rfl, readForeignKey, bind_of_eq (readNames_quoteList key.columns _),
    bind_of_eq (expect_append " REFERENCES " _),
    bind_of_eq (readName_quote key.refTable (endsPath_blank " (" rfl _)),
    bind_of_eq (expect_append " (" _), bind_of_eq (readNames_quoteList key.refColumns _),
    bind_of_eq (ReferentialAction.readBehind_append hdelete key.onDelete),
    bind_of_eq (ReferentialAction.readBehind_append hupdate key.onUpdate)]
  rfl

theorem read_index (key : Key) (rest : List Char) :
    read dialect (((TableItem.index key).sql dialect).toList ++ rest) =
      some (.index key, rest) := by
  have htext : ((TableItem.index key).sql dialect).toList ++ rest =
      "INDEX ".toList ++ ((quote dialect key.name).toList ++ (" (".toList ++
        ((quoteList dialect key.columns).toList ++ (")".toList ++ rest)))) := by
    simp only [TableItem.sql, String.toList_append, List.append_assoc]
  have hmissed (more : List Char) : takes "CONSTRAINT " ("INDEX ".toList ++ more) =
      some (false, "INDEX ".toList ++ more) := takes_of_not_isPrefixOf rfl
  rw [htext, read, ite_takes_of_missed (hmissed _), ite_takes_append,
    bind_of_eq (readName_quote key.name (endsPath_blank " (" rfl _)),
    bind_of_eq (expect_append " (" _), bind_of_eq (readNames_quoteList key.columns _)]
  rfl

/-- No column starts like a constraint or an index, since its name is quoted if it is one of these
words. -/
theorem read_column {column : WrittenColumn} (h : column.IsPlain) (hrest : EndsLine rest) :
    read dialect (column.toText dialect ++ rest) = some (.column column, rest) := by
  have htext : column.toText dialect ++ rest = (quote dialect column.name).toList ++
      (" ".toList ++ (column.word ++ column.parts.flatMap ColumnPart.toText ++ rest)) := by
    simp only [WrittenColumn.toText, List.append_assoc]
  have hends (more : List Char) : EndsPath dialect (" ".toList ++ more) :=
    endsPath_blank " " rfl more
  have hconstraint : takes "CONSTRAINT " (column.toText dialect ++ rest) =
      some (false, column.toText dialect ++ rest) := by
    rw [htext]
    refine takes_reserved_quote "CONSTRAINT".toList column.name (hends _) (by decide) fun more => ?_
    cases dialect <;> first | exact .inl rfl | exact .inr ⟨_, rfl⟩
  have hindex : takes "INDEX " (column.toText dialect ++ rest) =
      some (false, column.toText dialect ++ rest) := by
    rw [htext]
    refine takes_reserved_quote "INDEX".toList column.name (hends _) (by decide) fun more => ?_
    cases dialect <;> first | exact .inl rfl | exact .inr ⟨_, rfl⟩
  rw [read, ite_takes_of_missed hconstraint, ite_takes_of_missed hindex,
    bind_of_eq (WrittenColumn.read_toText h hrest)]
  rfl

/-- A line of a table is read back. -/
theorem read_toText {line : TableLine} (h : line.IsPlain) (hrest : EndsLine rest) :
    read dialect (line.toText dialect ++ rest) = some (line, rest) := by
  have hnames (key : Key) (toLine : Key → TableLine) :
      (do return toLine ⟨key.name, ← readNames dialect⟩)
        ((quoteList dialect key.columns).toList ++ (")".toList ++ rest)) =
          some (toLine key, rest) := by
    rw [bind_of_eq (readNames_quoteList key.columns rest)]
    rfl
  cases line with
  | column column => exact read_column h hrest
  | primaryKey key => exact readConstraint_eq rfl (fun _ => rfl) (hnames key .primaryKey)
  | uniqueKey key => exact readConstraint_eq rfl (fun _ => rfl) (hnames key .uniqueKey)
  | index key => exact read_index key rest
  | foreignKey key => exact read_foreignKey key hrest

end TableLine

/-- The line that an item of a table is written as. -/
inductive TableItem.WrittenAs (dialect : Dialect) : TableItem → TableLine → Prop
  | column {definition : ColumnDefinition} {written : WrittenColumn}
      (h : definition.WrittenAs dialect written) :
      WrittenAs dialect (.column definition) (.column written)
  | primaryKey (key : Key) : WrittenAs dialect (.primaryKey key) (.primaryKey key)
  | uniqueKey (key : Key) : WrittenAs dialect (.uniqueKey key) (.uniqueKey key)
  | index (key : Key) : WrittenAs dialect (.index key) (.index key)
  | foreignKey (key : ForeignKey) : WrittenAs dialect (.foreignKey key) (.foreignKey key)

namespace TableItem.WrittenAs

variable {dialect : Dialect} {item : TableItem} {line : TableLine}

theorem toText_eq (h : item.WrittenAs dialect line) :
    (item.sql dialect).toList = line.toText dialect := by
  cases h with
  | column h => exact h.toText_eq
  | _ => rfl

theorem isPlain (h : item.WrittenAs dialect line) : line.IsPlain := by
  cases h with
  | column h => exact h.isPlain
  | _ => trivial

end TableItem.WrittenAs

/-- A statement about a new table as it is written. -/
inductive TableSentence where
  /-- The table with its lines, and what is said about the table behind them. -/
  | createTable (name : String) (lines : List TableLine) (options : String)
  | createIndex (unique : Bool) (table : String) (key : Key)
  /-- The comment of a column. The target is the path of the table and the column. -/
  | comment (target text : String)
deriving DecidableEq, Repr

namespace TableSentence

variable (dialect : Dialect)

def readLine : Text.Reader TableLine := do
  expect "    "
  TableLine.read dialect

def readNextLine : Text.Reader TableLine := do
  expect ",\n"
  readLine dialect

def readTable : Text.Reader TableSentence := do
  let name ← readName dialect
  expect " (\n"
  let first ← readLine dialect
  let others ← several (readNextLine dialect)
  expect "\n)"
  return .createTable name (first :: others) (String.ofList (← everything))

def readIndex (unique : Bool) : Text.Reader TableSentence := do
  let name ← readName dialect
  expect " ON "
  let table ← readName dialect
  expect " ("
  return .createIndex unique table ⟨name, ← readNames dialect⟩

def readComment : Text.Reader TableSentence := do
  let target ← readName dialect
  expect " IS '"
  return .comment target (String.ofList (← insideQuotes))

def readNational : Text.Reader (List Char) := do
  expect "N'"
  insideQuotes

-- What stands in front of the three literals of a comment that is a property.

def propertyValue : String := "sp_addextendedproperty @name = N'MS_Description', @value = "

def propertyTable : String :=
  ", @level0type = N'SCHEMA', @level0name = N'dbo', @level1type = N'TABLE', @level1name = "

def propertyColumn : String := ", @level2type = N'COLUMN', @level2name = "

def readProperty : Text.Reader TableSentence := do
  expect propertyValue
  let text ← readNational
  expect propertyTable
  let table ← readNational
  expect propertyColumn
  let column ← readNational
  return .comment (String.ofList (table ++ '.' :: column)) (String.ofList text)

def readers : List (String × Text.Reader TableSentence) := [
  ("CREATE TABLE ", readTable dialect),
  ("CREATE UNIQUE INDEX ", readIndex dialect true),
  ("CREATE INDEX ", readIndex dialect false),
  ("COMMENT ON COLUMN ", readComment dialect),
  ("EXEC ", readProperty)]

/-- The sentence that a statement is read as. -/
def ofText? (text : String) : Option TableSentence :=
  (behind (readers dialect)).readAll text.toList

end TableSentence

namespace TableSentence

variable {dialect : Dialect}

theorem ofText?_of_append {text : String} (phrase : String) {rest : List Char}
    {reader : Text.Reader TableSentence} {sentence : TableSentence}
    (htext : text.toList = phrase.toList ++ rest)
    (hfind : (readers dialect).find? (fun (phrase', _) =>
      phrase'.toList.isPrefixOf (phrase.toList ++ rest)) = some (phrase, reader))
    (hread : reader rest = some (sentence, [])) : ofText? dialect text = some sentence := by
  rw [ofText?, htext, readAll, StateT.run, behind_append hfind, hread]

theorem readLine_append {line : TableLine} (h : line.IsPlain) {rest : List Char}
    (hrest : EndsLine rest) :
    readLine dialect ("    ".toList ++ (line.toText dialect ++ rest)) = some (line, rest) := by
  rw [readLine, bind_of_eq (expect_append _ _)]
  exact TableLine.read_toText h hrest

/-- What the lines of a table are written as behind the first one. -/
def othersText (dialect : Dialect) (lines : List TableLine) : List Char :=
  lines.flatMap fun line => ",\n".toList ++ ("    ".toList ++ line.toText dialect)

theorem endsLine_othersText (lines : List TableLine) (rest : List Char) :
    EndsLine (othersText dialect lines ++ ("\n)".toList ++ rest)) := by
  cases lines with
  | nil =>
    rintro c ⟨⟩
    exact .inr rfl
  | cons line lines =>
    rintro c ⟨⟩
    exact .inl rfl

theorem several_readNextLine {lines : List TableLine} (h : ∀ line ∈ lines, line.IsPlain)
    (rest : List Char) :
    several (readNextLine dialect) (othersText dialect lines ++ ("\n)".toList ++ rest)) =
      some (lines, "\n)".toList ++ rest) := by
  have hitem (before : List TableLine) (line : TableLine) (after : List TableLine)
      (hlines : lines = before ++ line :: after) :
      readNextLine dialect (",\n".toList ++ ("    ".toList ++ line.toText dialect) ++
          (othersText dialect after ++ ("\n)".toList ++ rest))) =
        some (id line, othersText dialect after ++ ("\n)".toList ++ rest)) := by
    rw [List.append_assoc, List.append_assoc, readNextLine, bind_of_eq (expect_append _ _)]
    exact readLine_append (h line (by simp [hlines])) (endsLine_othersText after rest)
  have hstop : readNextLine dialect ("\n)".toList ++ rest) = none :=
    expect_bind_of_not_isPrefixOf rfl
  have hread := several_append (fun _ _ => List.cons_ne_nil _ _) hitem hstop
  rwa [List.map_id] at hread

theorem flatMap_items {items : List TableItem} {lines : List TableLine}
    (h : List.Forall₂ (TableItem.WrittenAs dialect) items lines) :
    (items.map fun item => "    " ++ item.sql dialect).flatMap
        (fun part => ",\n".toList ++ part.toList) = othersText dialect lines := by
  induction h with
  | nil => rfl
  | cons hitem _ ih =>
    rw [List.map_cons, List.flatMap_cons, ih, String.toList_append, hitem.toText_eq]
    rfl

theorem isPlain_of_items {items : List TableItem} {lines : List TableLine}
    (h : List.Forall₂ (TableItem.WrittenAs dialect) items lines) :
    ∀ line ∈ lines, line.IsPlain := by
  induction h with
  | nil => exact fun _ hline => absurd hline List.not_mem_nil
  | cons hitem _ ih => exact List.forall_mem_cons.mpr ⟨hitem.isPlain, ih⟩

/-- A table is read back line by line. -/
theorem ofText?_createTable (name : String) {items : List TableItem} {lines : List TableLine}
    (hitems : items ≠ []) (engine : Option String)
    (h : List.Forall₂ (TableItem.WrittenAs dialect) items lines) :
    ∃ options, ofText? dialect ((Definition.createTable name items engine).sql dialect) =
      some (.createTable name lines options) := by
  cases h with
  | nil => exact absurd rfl hitems
  | @cons item line items lines hfirst hothers =>
    obtain ⟨options, hsql⟩ : ∃ options : String,
        (Definition.createTable name (item :: items) engine).sql dialect =
          "CREATE TABLE " ++ quote dialect name ++ " (\n" ++
            Text.join ",\n" ((item :: items).map fun item => "    " ++ item.sql dialect) ++ "\n)" ++
            options := by
      cases engine <;> exact ⟨_, rfl⟩
    have hread : readTable dialect ((quote dialect name).toList ++ (" (\n".toList ++
        ("    ".toList ++ (line.toText dialect ++ (othersText dialect lines ++
          ("\n)".toList ++ options.toList)))))) =
        some (.createTable name (line :: lines) options, []) := by
      rw [readTable, bind_of_eq (readName_quote name (endsPath_blank " (\n" rfl _)),
        bind_of_eq (expect_append " (\n" _),
        bind_of_eq (readLine_append hfirst.isPlain (endsLine_othersText lines _)),
        bind_of_eq (several_readNextLine (isPlain_of_items hothers) _),
        bind_of_eq (expect_append "\n)" _)]
      show some (createTable name (line :: lines) (String.ofList options.toList), []) = _
      rw [String.ofList_toList]
    have htext : ((Definition.createTable name (item :: items) engine).sql dialect).toList =
        "CREATE TABLE ".toList ++ ((quote dialect name).toList ++ (" (\n".toList ++
          ("    ".toList ++ (line.toText dialect ++ (othersText dialect lines ++
            ("\n)".toList ++ options.toList)))))) := by
      simp only [hsql, String.toList_append, List.map_cons, Text.toList_join_cons,
        flatMap_items hothers, hfirst.toText_eq, List.append_assoc]
    exact ⟨options, ofText?_of_append "CREATE TABLE " htext rfl hread⟩

theorem ofText?_createIndex (unique : Bool) (table : String) (key : Key) :
    ofText? dialect ((Definition.createIndex unique table key).sql dialect) =
      some (.createIndex unique table key) := by
  have hread : readIndex dialect unique ((quote dialect key.name).toList ++ (" ON ".toList ++
      ((quote dialect table).toList ++ (" (".toList ++
        ((quoteList dialect key.columns).toList ++ (")".toList ++ [])))))) =
      some (.createIndex unique table key, []) := by
    rw [readIndex, bind_of_eq (readName_quote key.name (endsPath_blank " ON " rfl _)),
      bind_of_eq (expect_append " ON " _),
      bind_of_eq (readName_quote table (endsPath_blank " (" rfl _)),
      bind_of_eq (expect_append " (" _), bind_of_eq (readNames_quoteList key.columns [])]
    rfl
  have htext (word : String) :
      (word ++ quote dialect key.name ++ " ON " ++ quote dialect table ++ " (" ++
        quoteList dialect key.columns ++ ")").toList =
      word.toList ++ ((quote dialect key.name).toList ++ (" ON ".toList ++
        ((quote dialect table).toList ++ (" (".toList ++
          ((quoteList dialect key.columns).toList ++ (")".toList ++ [])))))) := by
    simp only [String.toList_append, List.append_assoc, List.append_nil]
  cases unique with
  | true => exact ofText?_of_append "CREATE UNIQUE INDEX " (htext _) rfl hread
  | false => exact ofText?_of_append "CREATE INDEX " (htext _) rfl hread

theorem readNational_append (s : String) {rest : List Char} (hrest : '\'' ∉ rest.head?) :
    readNational ((Definition.nationalString s).toList ++ rest) = some (s.toList, rest) := by
  have htext : (Definition.nationalString s).toList ++ rest =
      "N'".toList ++ (Text.double '\'' s.toList ++ '\'' :: rest) := by
    simp [Definition.nationalString, quoteString]
  rw [htext, readNational, bind_of_eq (expect_append _ _)]
  exact insideQuotes_double s.toList hrest

theorem ofText?_comment (table column text : String) :
    ofText? .postgres ((Definition.comment table column text).sql .postgres) =
      some (.comment (table ++ "." ++ column) text) := by
  have htext : ((Definition.comment table column text).sql .postgres).toList =
      "COMMENT ON COLUMN ".toList ++ ((quote .postgres (table ++ "." ++ column)).toList ++
        (" IS '".toList ++ (Text.double '\'' text.toList ++ '\'' :: []))) := by
    have hsql : (Definition.comment table column text).sql .postgres = "COMMENT ON COLUMN " ++
        quote .postgres table ++ "." ++ quote .postgres column ++ " IS " ++ quoteString text := rfl
    have hopen (more : List Char) : " IS '".toList ++ more = " IS ".toList ++ '\'' :: more := rfl
    rw [hsql, quote_dot, hopen]
    simp only [quoteString, String.toList_append, String.toList_ofList, List.append_assoc,
      List.cons_append]
  have hread : readComment .postgres ((quote .postgres (table ++ "." ++ column)).toList ++
      (" IS '".toList ++ (Text.double '\'' text.toList ++ '\'' :: []))) =
        some (.comment (table ++ "." ++ column) (String.ofList text.toList), []) := by
    rw [readComment, bind_of_eq (readName_quote _ (endsPath_blank " IS '" rfl _)),
      bind_of_eq (expect_append " IS '" _),
      bind_of_eq (insideQuotes_double text.toList (Option.not_mem_none _))]
    rfl
  rw [String.ofList_toList] at hread
  exact ofText?_of_append "COMMENT ON COLUMN " htext rfl hread

theorem ofText?_property (table column text : String) :
    ofText? .sqlServer ((Definition.comment table column text).sql .sqlServer) =
      some (.comment (table ++ "." ++ column) text) := by
  have htext : ((Definition.comment table column text).sql .sqlServer).toList =
      "EXEC ".toList ++ (propertyValue.toList ++ ((Definition.nationalString text).toList ++
        (propertyTable.toList ++ ((Definition.nationalString table).toList ++
          (propertyColumn.toList ++ ((Definition.nationalString column).toList ++ [])))))) := by
    have hsql : (Definition.comment table column text).sql .sqlServer =
        "EXEC " ++ propertyValue ++ Definition.nationalString text ++ propertyTable ++
          Definition.nationalString table ++ propertyColumn ++
          Definition.nationalString column := by
      have hopen : "EXEC " ++ propertyValue =
          "EXEC sp_addextendedproperty @name = N'MS_Description', @value = " := by decide
      rw [hopen]
      rfl
    rw [hsql]
    simp only [String.toList_append, List.append_assoc, List.append_nil]
  have hread : readProperty (propertyValue.toList ++ ((Definition.nationalString text).toList ++
      (propertyTable.toList ++ ((Definition.nationalString table).toList ++
        (propertyColumn.toList ++ ((Definition.nationalString column).toList ++ [])))))) =
        some (.comment (String.ofList (table.toList ++ '.' :: column.toList))
          (String.ofList text.toList), []) := by
    rw [readProperty, bind_of_eq (expect_append _ _),
      bind_of_eq (readNational_append text (by rintro ⟨⟩)), bind_of_eq (expect_append _ _),
      bind_of_eq (readNational_append table (by rintro ⟨⟩)), bind_of_eq (expect_append _ _),
      bind_of_eq (readNational_append column (Option.not_mem_none _))]
    rfl
  have htarget : String.ofList (table.toList ++ '.' :: column.toList) = table ++ "." ++ column := by
    apply String.toList_injective
    simp
  rw [String.ofList_toList, htarget] at hread
  exact ofText?_of_append "EXEC " htext rfl hread

end TableSentence

end SqlDialects
