import Mathlib.Data.List.TakeWhile
import SqlDialects.Proofs.Table.Creation

/-! The statements about tables that there are already, read off their texts in every dialect: the
actions that change a table, one after the other, and the statements that stand beside them. -/

namespace SqlDialects

open Text.Reader Identifier

/-- One action of a statement that changes a table, as it is written. -/
inductive WrittenAction where
  /-- A column, or a key as a constraint. -/
  | addLine (line : TableLine)
  | addDefault (constraint column : String) (value : Literal)
  | modifyColumn (column : WrittenColumn)
  | changeColumn (source target type : String)
  | renameColumn (source target : String)
  /-- The type, and whether nulls are allowed where that is said with it. -/
  | setType (column type : String) (nullable : Option Bool)
  | setNullable (column : String) (nullable : Bool)
  | setDefault (column : String) (value : Literal)
  | dropDefault (column : String)
  | addIdentity (column : String)
  | dropColumn (name : String)
  | dropPrimaryKey
  | dropIndex (name : String)
  | dropForeignKey (name : String)
  | dropConstraint (name : String)
deriving DecidableEq, Repr

namespace ColumnPart

def readOfType : Text.Reader ColumnPart := do
  let part ← read
  guard part.isOfType
  return part

end ColumnPart

/-- A type: a word and parts of types. -/
def readType : Text.Reader String := do
  let word ← span Char.isUpper
  let parts ← several ColumnPart.readOfType
  return String.ofList (word ++ parts.flatMap ColumnPart.toText)

namespace WrittenAction

variable (dialect : Dialect) (types : ColumnTypes)

/-- A default that is a constraint with a name. -/
def readDefault : Text.Reader WrittenAction := do
  expect "CONSTRAINT "
  let constraint ← readName dialect
  expect " DEFAULT "
  let value ← Literal.read
  expect " FOR "
  return .addDefault constraint (← readName dialect) value

/-- What is added. Only SQL Server does not say that it is a column. -/
def readAdded : Text.Reader WrittenAction := fun text =>
  if dialect ≠ .sqlServer ∧ "COLUMN ".toList.isPrefixOf text then
    (WrittenColumn.read dialect (text.drop "COLUMN ".toList.length)).map
      fun (column, rest) => (.addLine (.column column), rest)
  else
    match readDefault dialect text with
    | some found => some found
    | none => (TableLine.read dialect text).map fun (line, rest) => (.addLine line, rest)

/-- A key that is added with a column. -/
def readKey : Text.Reader WrittenAction := fun text =>
  (TableLine.read dialect ("CONSTRAINT ".toList ++ text)).map
    fun (line, rest) => (.addLine line, rest)

def endsLine : List Char → Bool
  | [] => true
  | c :: _ => c = ',' || c = '\n'

/-- A new definition. The word `COLUMN` is the name of the column if a definition follows it as it
would follow a name. -/
def readModified : Text.Reader WrittenAction := fun text =>
  match WrittenColumn.read dialect text with
  | some (column, rest) =>
    if endsLine rest then some (.modifyColumn column, rest) else readWord text
  | none => readWord text
where
  readWord : Text.Reader WrittenAction := do
    expect "COLUMN "
    return .modifyColumn (← WrittenColumn.read dialect)

/-- A new name, with the type that the column has already. -/
def readChanged : Text.Reader WrittenAction := do
  let source ← readName dialect
  expect " "
  let target ← readName dialect
  match types.find? source with
  | none => fun _ => none
  | some type =>
    expect " "
    expect type
    return .changeColumn source target type

def readRenamed : Text.Reader WrittenAction := do
  let source ← readName dialect
  expect " TO "
  return .renameColumn source (← readName dialect)

def readTypeAndNull (column : String) : Text.Reader WrittenAction := do
  let type ← readType
  if ← takes " NOT NULL" then return .setType column type (some false)
  expect " NULL"
  return .setType column type (some true)

/-- What stands behind the name of a column that is altered. -/
def alterReaders (column : String) : List (String × Text.Reader WrittenAction) :=
  if dialect = .sqlServer then [(" ", readTypeAndNull column)]
  else [
    (" TYPE ", do return .setType column (← readType) none),
    (" SET NOT NULL", pure (.setNullable column false)),
    (" DROP NOT NULL", pure (.setNullable column true)),
    (" SET DEFAULT ", do return .setDefault column (← Literal.read)),
    (" DROP DEFAULT", pure (.dropDefault column)),
    (" ADD GENERATED BY DEFAULT AS IDENTITY", pure (.addIdentity column))]

/-- MySQL does not say that it is a column that is altered. -/
def readAltered : Text.Reader WrittenAction := do
  expect (if dialect = .mysql then "" else "COLUMN ")
  let column ← readName dialect
  behind (alterReaders dialect column)

def readNamed (action : String → WrittenAction) : Text.Reader WrittenAction := do
  return action (← readName dialect)

def readers : List (String × Text.Reader WrittenAction) := [
  ("ADD ", readAdded dialect),
  ("CONSTRAINT ", readKey dialect),
  ("MODIFY ", readModified dialect),
  ("CHANGE ", readChanged dialect types),
  ("RENAME COLUMN ", readRenamed dialect),
  ("ALTER ", readAltered dialect),
  ("DROP COLUMN ", readNamed dialect .dropColumn),
  ("DROP PRIMARY KEY", pure .dropPrimaryKey),
  ("DROP INDEX ", readNamed dialect .dropIndex),
  ("DROP FOREIGN KEY ", readNamed dialect .dropForeignKey),
  ("DROP CONSTRAINT ", readNamed dialect .dropConstraint)]

def read : Text.Reader WrittenAction := behind (readers dialect types)

def readNext : Text.Reader WrittenAction := do
  expect ", "
  read dialect types

end WrittenAction

/-- Whether a type is not read as a part of a definition. -/
def StartsNoPart (type : String) : Prop :=
  ∀ more, ColumnPart.read (' ' :: (type.toList ++ more)) = none

theorem StartsNoPart.append {type : String} (h : StartsNoPart type) (more : String) :
    StartsNoPart (type ++ more) := fun rest => by
  rw [String.toList_append, List.append_assoc]
  exact h _

namespace Column

theorem startsNoPart_oneSize {dialect : Dialect} {column : Column} {type : String}
    (h : StartsNoPart type) : Yields StartsNoPart (column.oneSize dialect type) := by
  unfold oneSize
  split
  · exact .ok h
  · exact .error

theorem startsNoPart_decimalType (column : Column) : StartsNoPart column.decimalType := by
  have hword : StartsNoPart "DECIMAL(" := fun _ => rfl
  unfold decimalType
  split
  · simp only [String.append_assoc]
    exact hword.append _
  · simp only [String.append_assoc]
    exact hword.append _
  · exact fun _ => rfl

theorem startsNoPart_mysqlType (column : Column) : Yields StartsNoPart column.mysqlType := by
  have hlength (word : String) (h : StartsNoPart word) :
      StartsNoPart (column.withLength word) := by
    simp only [withLength, String.append_assoc]
    exact h.append _
  unfold mysqlType
  split
  case h_1 | h_2 | h_6 | h_7 =>
    split <;> first | exact .ok fun _ => rfl | exact .error
  case h_4 => exact startsNoPart_oneSize column.startsNoPart_decimalType
  case h_8 | h_9 => exact startsNoPart_oneSize (hlength _ fun _ => rfl)
  case h_3 | h_5 => exact startsNoPart_oneSize fun _ => rfl
  all_goals exact .ok fun _ => rfl

/-- No type of MySQL starts like a part of a definition. -/
theorem startsNoPart_nativeType (column : Column) :
    Yields StartsNoPart (column.nativeType .mysql) := by
  intro type htype
  obtain ⟨word, hword, rfl⟩ := map_eq_ok_iff.mp htype
  exact (column.startsNoPart_mysqlType word hword).append _

end Column

/-- No item is read where there is none. -/
theorem Text.Reader.several_of_eq_none {item : Text.Reader α} {rest : List Char}
    (h : item rest = none) : several item rest = some ([], rest) := by
  unfold several
  cases rest.length with
  | zero => rfl
  | succ => rw [upTo, h]

/-- What follows a line of a table or an action of a change ends a name as well. -/
theorem EndsLine.endsPath {dialect : Dialect} {rest : List Char} (h : EndsLine rest) :
    EndsPath dialect rest := by
  intro c hc
  rcases h c hc with rfl | rfl <;> cases dialect <;> decide

theorem EndsPart.flatMap_toText {rest : List Char} (h : EndsPart rest) (parts : List ColumnPart) :
    EndsPart (parts.flatMap ColumnPart.toText ++ rest) := by
  cases parts with
  | nil => exact h
  | cons part parts =>
    intro c hc
    rw [ColumnPart.flatMap_toText_append] at hc
    exact (ColumnPart.head?_phrase hc).imp_right .inl

/-- A type is read back where no part of a type follows. -/
theorem readType_append {type : String} (h : IsTypeText type) {rest : List Char}
    (hends : EndsPart rest) (hstop : ColumnPart.readOfType rest = none) :
    readType (type.toList ++ rest) = some (type, rest) := by
  obtain ⟨word, parts, hspells⟩ := h
  have hword : ∀ c ∈ (parts.flatMap ColumnPart.toText ++ rest).head?, c.isUpper = false := by
    intro c hc
    rcases hends.flatMap_toText parts c hc with rfl | rfl | rfl | rfl <;> decide
  have hitem (before : List ColumnPart) (part : ColumnPart) (after : List ColumnPart)
      (hparts : parts = before ++ part :: after) :
      ColumnPart.readOfType (part.toText ++ (after.flatMap ColumnPart.toText ++ rest)) =
        some (id part, after.flatMap ColumnPart.toText ++ rest) := by
    have hmem : part ∈ parts := by simp [hparts]
    rw [ColumnPart.readOfType, bind_of_eq (ColumnPart.read_toText (hspells.isPlain part hmem)
      (hends.flatMap_toText after)), hspells.isOfType part hmem]
    rfl
  have hparts := several_append (fun part _ hnil =>
    part.phrase_toList_ne_nil (List.append_eq_nil_iff.mp hnil).1) hitem hstop
  rw [List.map_id] at hparts
  rw [hspells.toList_eq, List.append_assoc, readType, bind_of_eq (span_append hspells.word hword),
    bind_of_eq hparts]
  show some (String.ofList (word ++ parts.flatMap ColumnPart.toText), rest) = _
  rw [← hspells.toList_eq, String.ofList_toList]

theorem EndsLine.readOfType_eq_none {rest : List Char} (h : EndsLine rest) :
    ColumnPart.readOfType rest = none := by
  rw [ColumnPart.readOfType]
  exact bind_of_eq_none h.read_eq_none

namespace WrittenAction

variable {dialect : Dialect} {types : ColumnTypes}

/-- A text that is read as an action wherever a line can end behind it. -/
def Says (dialect : Dialect) (types : ColumnTypes) (text : List Char) (action : WrittenAction) :
    Prop :=
  ∀ rest, EndsLine rest → read dialect types (text ++ rest) = some (action, rest)

theorem says_append (phrase : String) {argument : List Char} {reader : Text.Reader WrittenAction}
    {action : WrittenAction}
    (hfind : ∀ rest, (readers dialect types).find? (fun (phrase', _) =>
      phrase'.toList.isPrefixOf (phrase.toList ++ rest)) = some (phrase, reader))
    (hread : ∀ rest, EndsLine rest → reader (argument ++ rest) = some (action, rest)) :
    Says dialect types (phrase.toList ++ argument) action := by
  intro rest hrest
  rw [read, List.append_assoc, behind_append (hfind _), hread rest hrest]

/-- A line that starts as a constraint and goes on as a key. -/
def IsConstraint (dialect : Dialect) (line : TableLine) : Prop :=
  ∃ name phrase more, phrase ∈ [" PRIMARY KEY (", " UNIQUE (", " FOREIGN KEY ("] ∧
    line.toText dialect =
      "CONSTRAINT ".toList ++ ((quote dialect name).toList ++ (String.toList phrase ++ more))

theorem IsConstraint.primaryKey (key : Key) : IsConstraint dialect (.primaryKey key) := by
  have hphrase : " PRIMARY KEY (" = " " ++ "PRIMARY KEY" ++ " (" := rfl
  exact ⟨key.name, " PRIMARY KEY (", _, by decide,
    (List.append_nil _).symm.trans (key.toList_constraintSql hphrase [])⟩

theorem IsConstraint.uniqueKey (key : Key) : IsConstraint dialect (.uniqueKey key) := by
  have hphrase : " UNIQUE (" = " " ++ "UNIQUE" ++ " (" := rfl
  exact ⟨key.name, " UNIQUE (", _, by decide,
    (List.append_nil _).symm.trans (key.toList_constraintSql hphrase [])⟩

theorem IsConstraint.foreignKey (key : ForeignKey) : IsConstraint dialect (.foreignKey key) :=
  ⟨key.name, " FOREIGN KEY (", _, by decide, (List.append_nil _).symm.trans (key.toList_sql [])⟩

section

variable {rest : List Char}

theorem readAdded_constraint {line : TableLine} (h : IsConstraint dialect line)
    (hplain : line.IsPlain) (hrest : EndsLine rest) :
    readAdded dialect (line.toText dialect ++ rest) = some (.addLine line, rest) := by
  obtain ⟨name, phrase, more, hphrase, htext⟩ := h
  have hword : "COLUMN ".toList.isPrefixOf (line.toText dialect ++ rest) = false := by
    rw [htext, List.append_assoc]
    rfl
  have hdefault : readDefault dialect (line.toText dialect ++ rest) = none := by
    have hname : EndsPath dialect (phrase.toList ++ (more ++ rest)) ∧
        " DEFAULT ".toList.isPrefixOf (phrase.toList ++ (more ++ rest)) = false := by
      simp only [List.mem_cons, List.not_mem_nil, or_false] at hphrase
      rcases hphrase with rfl | rfl | rfl <;> exact ⟨endsPath_blank _ rfl _, rfl⟩
    simp only [htext, List.append_assoc]
    rw [readDefault, bind_of_eq (expect_append _ _), bind_of_eq (readName_quote name hname.1)]
    exact expect_bind_of_not_isPrefixOf hname.2
  rw [readAdded, if_neg fun h => Bool.false_ne_true (hword.symm.trans h.2), hdefault]
  simp only [TableLine.read_toText hplain hrest, Option.map_some]

/-- A key that stands behind the column that it is added with. -/
theorem readKey_constraint {line : TableLine} {more : List Char}
    (htext : line.toText dialect = "CONSTRAINT ".toList ++ more) (hplain : line.IsPlain)
    (hrest : EndsLine rest) : readKey dialect (more ++ rest) = some (.addLine line, rest) := by
  rw [readKey, ← List.append_assoc, ← htext, TableLine.read_toText hplain hrest, Option.map_some]

/-- A column, which only SQL Server adds without saying that it is one. -/
theorem readAdded_column {column : WrittenColumn} (hplain : column.IsPlain)
    (hrest : EndsLine rest) :
    readAdded dialect ((if dialect = .sqlServer then "" else "COLUMN ").toList ++
      (column.toText dialect ++ rest)) = some (.addLine (.column column), rest) := by
  by_cases hdialect : dialect = .sqlServer
  · subst hdialect
    have htext : column.toText .sqlServer ++ rest = (quote .sqlServer column.name).toList ++
        (" ".toList ++ (column.word ++ column.parts.flatMap ColumnPart.toText ++ rest)) := by
      simp only [WrittenColumn.toText, List.append_assoc]
    have hmissed : takes "CONSTRAINT " (column.toText .sqlServer ++ rest) =
        some (false, column.toText .sqlServer ++ rest) := by
      rw [htext]
      exact takes_reserved_quote "CONSTRAINT".toList column.name (endsPath_blank " " rfl _)
        (by decide) fun _ => .inr ⟨_, rfl⟩
    have hconstraint : expect "CONSTRAINT " (column.toText .sqlServer ++ rest) = none := by
      rw [expect, bind_of_eq hmissed]
      rfl
    have hdefault : readDefault .sqlServer (column.toText .sqlServer ++ rest) = none := by
      rw [readDefault, bind_of_eq_none hconstraint]
    rw [if_pos rfl, String.toList_empty, List.nil_append, readAdded, if_neg fun h => h.1 rfl,
      hdefault]
    simp only [TableLine.read_column hplain hrest, Option.map_some]
  · have hword : dialect ≠ .sqlServer ∧
        "COLUMN ".toList.isPrefixOf ("COLUMN ".toList ++ (column.toText dialect ++ rest)) :=
      ⟨hdialect, List.isPrefixOf_iff_prefix.mpr (List.prefix_append _ _)⟩
    rw [if_neg hdialect, readAdded, if_pos hword, List.drop_left]
    rw [WrittenColumn.read_toText hplain hrest]
    rfl

theorem endsLine_eq_true (hrest : EndsLine rest) : endsLine rest = true := by
  cases rest with
  | nil => rfl
  | cons c more => simpa [endsLine] using hrest c rfl

theorem readModified_column {column : WrittenColumn} (hplain : column.IsPlain)
    (hrest : EndsLine rest) :
    readModified dialect (column.toText dialect ++ rest) = some (.modifyColumn column, rest) := by
  rw [readModified, WrittenColumn.read_toText hplain hrest]
  exact if_pos (endsLine_eq_true hrest)

/-- The first part of a name, and a dot behind it if there are others. -/
theorem exists_quotePart_append (dialect : Dialect) (name : String) :
    ∃ part behind, (∀ c ∈ behind.head?, c = '.') ∧
      (quote dialect name).toList = quotePart dialect part ++ behind := by
  obtain ⟨part, others, hsplit⟩ := List.exists_cons_of_ne_nil (Text.split_ne_nil '.' name.toList)
  rw [quote, String.toList_ofList, hsplit, List.map_cons]
  cases others with
  | nil => exact ⟨part, [], by simp, by simp [List.intercalate]⟩
  | cons second others =>
    refine ⟨part, '.' :: List.intercalate ['.'] ((second :: others).map (quotePart dialect)),
      by simp, ?_⟩
    simp [List.intercalate]

/-- The first character of a name that is no capital is none of those that end a part of a
definition. -/
theorem notMem_of_head?_dropWhile_quote (name : String) {c : Char}
    (h : c ∈ ((quote .mysql name).toList.dropWhile Char.isUpper).head?) :
    c ∉ [' ', '(', ',', '\n'] := by
  obtain ⟨part, behind, hbehind, hquote⟩ := exists_quotePart_append .mysql name
  rw [hquote, quotePart] at h
  split at h
  case isTrue hbare =>
    rw [List.dropWhile_append] at h
    split at h
    case isTrue =>
      cases behind with
      | nil => cases h
      | cons d more =>
        obtain rfl : d = '.' := hbehind d rfl
        obtain rfl : '.' = c := by simpa [List.dropWhile] using h
        decide
    case isFalse hne =>
      have hmem : c ∈ part := by
        rw [List.head?_append_of_ne_nil _ (by simpa using hne)] at h
        exact (List.dropWhile_sublist _).subset (List.mem_of_mem_head? h)
      have hchar : c = '*' ∨ isBareChar c = true := by
        rcases hbare with rfl | hquotes
        · exact .inl (List.mem_singleton.mp hmem)
        · simp only [needsQuotes, Bool.or_eq_false_iff, List.any_eq_false] at hquotes
          exact .inr (by simpa using hquotes.1.1.2 c hmem)
      simp only [List.mem_cons, List.not_mem_nil, or_false]
      rintro (rfl | rfl | rfl | rfl) <;> revert hchar <;> decide
  case isFalse =>
    obtain rfl : '\x60' = c := by simpa [delimit, delimiters] using h
    decide

/-- A part of a definition starts with a blank or a parenthesis. -/
theorem columnPart_read_cons {c : Char} (hblank : c ≠ ' ') (hparen : c ≠ '(')
    (more : List Char) : ColumnPart.read (c :: more) = none := by
  have hmissed : ColumnPart.readers.find? (fun (phrase, _) =>
      phrase.toList.isPrefixOf (c :: more)) = none := by
    simp [ColumnPart.readers, List.isPrefixOf, hblank.symm, hparen.symm]
  simp only [ColumnPart.read, behind, hmissed]

/-- What is left of a name behind its first capitals, and what the name stands in front of, does not
go on as a definition, unless all of the name is capitals. -/
theorem stops_of_dropWhile_quote (name : String) {tail : List Char}
    (htail : ColumnPart.read (' ' :: tail) = none) :
    let stop := (quote .mysql name).toList.dropWhile Char.isUpper ++ ' ' :: tail
    (∀ c ∈ stop.head?, c.isUpper = false) ∧ ColumnPart.read stop = none ∧
      endsLine stop = false := by
  intro stop
  cases hdrop : (quote .mysql name).toList.dropWhile Char.isUpper with
  | nil =>
    have hstop : stop = ' ' :: tail := by rw [show stop = _ ++ ' ' :: tail from rfl, hdrop]; rfl
    rw [hstop]
    exact ⟨by rintro _ ⟨⟩; rfl, htail, rfl⟩
  | cons c more =>
    have hstop : stop = c :: (more ++ ' ' :: tail) := by
      rw [show stop = _ ++ ' ' :: tail from rfl, hdrop]
      rfl
    have hc : c ∉ [' ', '(', ',', '\n'] :=
      notMem_of_head?_dropWhile_quote name (by rw [hdrop]; rfl)
    simp only [List.mem_cons, List.not_mem_nil, or_false, not_or] at hc
    have hupper : c.isUpper = false := by
      -- Of any text: the lemma's match on the head would evaluate `quote`.
      obtain ⟨text, htext⟩ : ∃ text, (quote .mysql name).toList = text := ⟨_, rfl⟩
      have hhead := List.head?_dropWhile_not Char.isUpper text
      rwa [← htext, hdrop] at hhead
    rw [hstop]
    refine ⟨?_, columnPart_read_cons hc.1 hc.2.1 _, by simp [endsLine, hc.2.2]⟩
    rintro _ ⟨⟩
    exact hupper

/-- A definition of a column that is named like the word for columns, in front of no other part. -/
theorem read_columnNamedColumn {word stop : List Char} (hword : ∀ c ∈ word, c.isUpper)
    (hupper : ∀ c ∈ stop.head?, c.isUpper = false) (hpart : ColumnPart.read stop = none) :
    WrittenColumn.read .mysql ("COLUMN ".toList ++ (word ++ stop)) =
      some (⟨"COLUMN", word, []⟩, stop) := by
  have htext : "COLUMN ".toList ++ (word ++ stop) =
      (quote .mysql "COLUMN").toList ++ (" ".toList ++ (word ++ stop)) := by
    have hname : (quote .mysql "COLUMN").toList = "COLUMN".toList := by decide
    rw [hname, ← List.append_assoc]
    rfl
  rw [htext, WrittenColumn.read, bind_of_eq (readName_quote "COLUMN" (endsPath_blank " " rfl _)),
    bind_of_eq (expect_append " " _), bind_of_eq (span_append hword hupper),
    bind_of_eq (several_of_eq_none hpart)]
  rfl

/-- With the word for it, a new definition is not read as one of a column with this name: what
stands behind the word and the name is no part of a definition, since the type follows. -/
theorem readModified_word {column : WrittenColumn} (hplain : column.IsPlain)
    (hrest : EndsLine rest)
    (htype : ColumnPart.read (' ' :: (column.word ++ (column.parts.flatMap ColumnPart.toText ++
      rest))) = none) :
    readModified .mysql ("COLUMN ".toList ++ (column.toText .mysql ++ rest)) =
      some (.modifyColumn column, rest) := by
  have hread : WrittenColumn.read .mysql (column.toText .mysql ++ rest) = some (column, rest) :=
    WrittenColumn.read_toText hplain hrest
  obtain ⟨word, stop, htext, hword, hupper, hpart, hends⟩ :
      ∃ word stop, column.toText .mysql ++ rest = word ++ stop ∧ (∀ c ∈ word, c.isUpper) ∧
        (∀ c ∈ stop.head?, c.isUpper = false) ∧ ColumnPart.read stop = none ∧
        endsLine stop = false := by
    refine ⟨(quote .mysql column.name).toList.takeWhile Char.isUpper, _, ?_,
      fun _ => List.mem_takeWhile_imp, stops_of_dropWhile_quote column.name htype⟩
    rw [← List.append_assoc (List.takeWhile _ _), List.takeWhile_append_dropWhile]
    simp only [WrittenColumn.toText, List.append_assoc]
    rfl
  rw [htext] at hread ⊢
  rw [readModified, read_columnNamedColumn hword hupper hpart]
  simp only [hends, Bool.false_eq_true, if_false]
  rw [readModified.readWord, bind_of_eq (expect_append "COLUMN " _), bind_of_eq hread]
  rfl

end

section

variable {definition : ColumnDefinition} {written : WrittenColumn}

theorem says_addColumn (h : definition.WrittenAs dialect written) :
    Says dialect types (AlterAction.addWord dialect ++ definition.sql dialect).toList
      (.addLine (.column written)) := by
  have hword : (AlterAction.addWord dialect).toList =
      "ADD ".toList ++ (if dialect = .sqlServer then "" else "COLUMN ").toList := by
    cases dialect <;> rfl
  rw [String.toList_append, hword, h.toText_eq, List.append_assoc]
  refine says_append "ADD " (fun _ => rfl) fun rest hrest => ?_
  rw [List.append_assoc]
  exact readAdded_column h.isPlain hrest

theorem says_addItem {item : TableItem} {line : TableLine}
    (h : item.WrittenAs dialect line) (hconstraint : IsConstraint dialect line) :
    Says dialect types ("ADD " ++ item.sql dialect).toList (.addLine line) := by
  rw [String.toList_append, h.toText_eq]
  exact says_append "ADD " (fun _ => rfl) fun _ => readAdded_constraint hconstraint h.isPlain

theorem says_addPrimaryKey (key : Key) :
    Says dialect types ("ADD " ++ (TableItem.primaryKey key).sql dialect).toList
      (.addLine (.primaryKey key)) :=
  says_addItem (.primaryKey key) (.primaryKey key)

/-- Behind a column, SQL Server does not say again that something is added. -/
theorem says_keyBehind (key : Key) :
    Says dialect types ((TableItem.primaryKey key).sql dialect).toList
      (.addLine (.primaryKey key)) := by
  have hphrase : " PRIMARY KEY (" = " " ++ "PRIMARY KEY" ++ " (" := rfl
  have htext : (key.constraintSql dialect "PRIMARY KEY").toList = _ :=
    (List.append_nil _).symm.trans (key.toList_constraintSql hphrase [])
  rw [TableItem.sql, htext]
  exact says_append "CONSTRAINT " (fun _ => rfl) fun _ => readKey_constraint htext trivial

theorem says_modify (h : definition.WrittenAs dialect written) :
    Says dialect types ("MODIFY " ++ definition.sql dialect).toList (.modifyColumn written) := by
  rw [String.toList_append, h.toText_eq]
  exact says_append "MODIFY " (fun _ => rfl) fun _ => readModified_column h.isPlain

/-- What stands behind the name of a column starts with its type. -/
theorem exists_nativeType_append (h : definition.WrittenAs dialect written) :
    ∃ more, written.word ++ written.parts.flatMap ColumnPart.toText =
      definition.nativeType.toList ++ more := by
  obtain ⟨more, hsql⟩ : ∃ more, (definition.sql dialect).toList =
      (quote dialect definition.name).toList ++
        (" ".toList ++ (definition.nativeType.toList ++ more)) := by
    rw [ColumnDefinition.sql_eq, ColumnDefinition.headSql]
    simp only [String.toList_append, List.append_assoc]
    exact ⟨_, rfl⟩
  have htext := h.toText_eq.symm.trans hsql
  rw [WrittenColumn.toText, h.name_eq] at htext
  exact ⟨more, List.append_cancel_left (List.append_cancel_left htext)⟩

theorem says_modifyColumn (h : definition.WrittenAs .mysql written)
    (htype : StartsNoPart definition.nativeType) :
    Says .mysql types ("MODIFY COLUMN " ++ definition.sql .mysql).toList
      (.modifyColumn written) := by
  obtain ⟨more, hmore⟩ := exists_nativeType_append h
  have hwords : "MODIFY COLUMN ".toList = "MODIFY ".toList ++ "COLUMN ".toList := rfl
  rw [String.toList_append, h.toText_eq, hwords, List.append_assoc]
  refine says_append "MODIFY " (fun _ => rfl) fun rest hrest => ?_
  rw [List.append_assoc]
  refine readModified_word h.isPlain hrest ?_
  rw [← List.append_assoc, hmore, List.append_assoc]
  exact htype _

end

section

variable {column : String}

/-- A change of a column that is singled out. -/
theorem says_alterColumn (phrase : String) {argument : List Char}
    {reader : Text.Reader WrittenAction} {action : WrittenAction}
    (hends : ∀ rest, EndsPath dialect (phrase.toList ++ rest))
    (hfind : ∀ rest, (alterReaders dialect column).find? (fun (phrase', _) =>
      phrase'.toList.isPrefixOf (phrase.toList ++ rest)) = some (phrase, reader))
    (hread : ∀ rest, EndsLine rest → reader (argument ++ rest) = some (action, rest)) :
    Says dialect types
      ((AlterAction.alterColumn dialect column).toList ++ (phrase.toList ++ argument)) action := by
  have hwords : (AlterAction.alterColumn dialect column).toList = "ALTER ".toList ++
      ((if dialect = .mysql then "" else "COLUMN ").toList ++ (quote dialect column).toList) := by
    cases dialect <;> simp [AlterAction.alterColumn]
  rw [hwords, List.append_assoc]
  refine says_append "ALTER " (fun _ => rfl) fun rest hrest => ?_
  simp only [List.append_assoc]
  rw [readAltered, bind_of_eq (expect_append _ _), bind_of_eq (readName_quote column (hends _)),
    behind_append (hfind _), hread rest hrest]

variable {type : String}

theorem endsPart_of_endsLine {rest : List Char} (hrest : EndsLine rest) : EndsPart rest :=
  hrest.endsPart []

theorem says_setType (htype : IsTypeText type) :
    Says .postgres types (AlterAction.alterColumn .postgres column ++ " TYPE " ++ type).toList
      (.setType column type none) := by
  rw [String.toList_append, String.toList_append, List.append_assoc]
  refine says_alterColumn " TYPE " (endsPath_blank _ rfl) (fun _ => rfl) fun rest hrest => ?_
  rw [bind_of_eq (readType_append htype (endsPart_of_endsLine hrest) hrest.readOfType_eq_none)]
  rfl

theorem says_setTypeAndNull (htype : IsTypeText type) (nullable : Bool) :
    Says .sqlServer types (AlterAction.alterColumn .sqlServer column ++ " " ++ type ++
      (if nullable then " NULL" else " NOT NULL")).toList
      (.setType column type (some nullable)) := by
  simp only [String.toList_append, List.append_assoc]
  refine says_alterColumn " " (endsPath_blank _ rfl) (fun _ => rfl) fun rest hrest => ?_
  have hends (phrase : String) (h : phrase.toList.head? = some ' ') :
      EndsPart (phrase.toList ++ rest) := by
    obtain ⟨more, hmore⟩ := List.head?_eq_some_iff.mp h
    rw [hmore]
    rintro _ ⟨⟩
    exact .inl rfl
  rw [List.append_assoc, readTypeAndNull]
  cases nullable with
  | true =>
    rw [if_pos rfl, bind_of_eq (readType_append htype (hends " NULL" rfl) rfl)]
    rfl
  | false =>
    rw [if_neg Bool.false_ne_true, bind_of_eq (readType_append htype (hends " NOT NULL" rfl) rfl),
      ite_takes_append]
    rfl

theorem says_setNullable (nullable : Bool) :
    Says .postgres types (AlterAction.alterColumn .postgres column ++
      (if nullable then " DROP NOT NULL" else " SET NOT NULL")).toList
      (.setNullable column nullable) := by
  rw [String.toList_append]
  cases nullable with
  | true =>
    rw [if_pos rfl, ← List.append_nil " DROP NOT NULL".toList]
    exact says_alterColumn " DROP NOT NULL" (endsPath_blank _ rfl) (fun _ => rfl) fun _ _ => rfl
  | false =>
    rw [if_neg Bool.false_ne_true, ← List.append_nil " SET NOT NULL".toList]
    exact says_alterColumn " SET NOT NULL" (endsPath_blank _ rfl) (fun _ => rfl) fun _ _ => rfl

theorem says_setDefault (hdialect : dialect ≠ .sqlServer) (value : Value) :
    Says dialect types
      (AlterAction.alterColumn dialect column ++ " SET DEFAULT " ++ value.literal dialect).toList
      (.setDefault column (value.written dialect)) := by
  rw [String.toList_append, String.toList_append, List.append_assoc, ← value.toText_written]
  have hread (rest : List Char) (hrest : EndsLine rest) :
      (do return setDefault column (← Literal.read)) ((value.written dialect).toText ++ rest) =
        some (setDefault column (value.written dialect), rest) := by
    rw [bind_of_eq (Literal.read_toText (value.isPlain_written dialect)
      (endsPart_of_endsLine hrest))]
    rfl
  cases dialect with
  | sqlServer => exact absurd rfl hdialect
  | _ => exact says_alterColumn " SET DEFAULT " (endsPath_blank _ rfl) (fun _ => rfl) hread

theorem says_dropDefault (hdialect : dialect ≠ .sqlServer) :
    Says dialect types (AlterAction.alterColumn dialect column ++ " DROP DEFAULT").toList
      (.dropDefault column) := by
  rw [String.toList_append, ← List.append_nil " DROP DEFAULT".toList]
  cases dialect with
  | sqlServer => exact absurd rfl hdialect
  | _ =>
    exact says_alterColumn " DROP DEFAULT" (endsPath_blank _ rfl) (fun _ => rfl) fun _ _ => rfl

theorem says_addIdentity :
    Says .postgres types
      (AlterAction.alterColumn .postgres column ++ " ADD GENERATED BY DEFAULT AS IDENTITY").toList
      (.addIdentity column) := by
  rw [String.toList_append, ← List.append_nil " ADD GENERATED BY DEFAULT AS IDENTITY".toList]
  exact says_alterColumn " ADD GENERATED BY DEFAULT AS IDENTITY" (endsPath_blank _ rfl)
    (fun _ => rfl) fun _ _ => rfl

end

theorem says_addDefault (constraint column : String) (value : Value) :
    Says dialect types ("ADD CONSTRAINT " ++ quote dialect constraint ++ " DEFAULT " ++
      value.literal dialect ++ " FOR " ++ quote dialect column).toList
      (.addDefault constraint column (value.written dialect)) := by
  have hwords : "ADD CONSTRAINT ".toList = "ADD ".toList ++ "CONSTRAINT ".toList := rfl
  simp only [String.toList_append, hwords, List.append_assoc, ← value.toText_written]
  refine says_append "ADD " (fun _ => rfl) fun rest hrest => ?_
  simp only [List.append_assoc]
  have hfor : EndsPart (" FOR ".toList ++ ((quote dialect column).toList ++ rest)) := by
    rintro _ ⟨⟩
    exact .inl rfl
  have hdefault : readDefault dialect ("CONSTRAINT ".toList ++ ((quote dialect constraint).toList ++
      (" DEFAULT ".toList ++ ((value.written dialect).toText ++ (" FOR ".toList ++
        ((quote dialect column).toList ++ rest)))))) =
      some (.addDefault constraint column (value.written dialect), rest) := by
    rw [readDefault, bind_of_eq (expect_append "CONSTRAINT " _),
      bind_of_eq (readName_quote constraint (endsPath_blank " DEFAULT " rfl _)),
      bind_of_eq (expect_append " DEFAULT " _),
      bind_of_eq (Literal.read_toText (value.isPlain_written dialect) hfor),
      bind_of_eq (expect_append " FOR " _), bind_of_eq (readName_quote column hrest.endsPath)]
    rfl
  rw [readAdded, if_neg fun h => nomatch h.2]
  simp only [hdefault]

theorem says_changeColumn {source type : String} (target : String)
    (h : types.find? source = some type) :
    Says dialect types ("CHANGE " ++ quote dialect source ++ " " ++ quote dialect target ++ " " ++
      type).toList (.changeColumn source target type) := by
  simp only [String.toList_append, List.append_assoc]
  refine says_append "CHANGE " (fun _ => rfl) fun rest hrest => ?_
  simp only [List.append_assoc]
  rw [readChanged, bind_of_eq (readName_quote source (endsPath_blank " " rfl _)),
    bind_of_eq (expect_append " " _),
    bind_of_eq (readName_quote target (endsPath_blank " " rfl _)), h]
  show (do expect " "; expect type; return changeColumn source target type) _ = _
  rw [bind_of_eq (expect_append " " _), bind_of_eq (expect_append type _)]
  rfl

theorem says_renameColumn (source target : String) :
    Says dialect types
      ("RENAME COLUMN " ++ quote dialect source ++ " TO " ++ quote dialect target).toList
      (.renameColumn source target) := by
  simp only [String.toList_append, List.append_assoc]
  refine says_append "RENAME COLUMN " (fun _ => rfl) fun rest hrest => ?_
  simp only [List.append_assoc]
  rw [readRenamed, bind_of_eq (readName_quote source (endsPath_blank " TO " rfl _)),
    bind_of_eq (expect_append " TO " _), bind_of_eq (readName_quote target hrest.endsPath)]
  rfl

/-- An action that ends in a name. -/
theorem says_named (phrase : String) {action : String → WrittenAction} (name : String)
    (hfind : ∀ rest, (readers dialect types).find? (fun (phrase', _) =>
      phrase'.toList.isPrefixOf (phrase.toList ++ rest)) =
        some (phrase, readNamed dialect action)) :
    Says dialect types (phrase ++ quote dialect name).toList (action name) := by
  rw [String.toList_append]
  refine says_append phrase hfind fun rest hrest => ?_
  rw [readNamed, bind_of_eq (readName_quote name hrest.endsPath)]
  rfl

theorem says_dropPrimaryKey : Says dialect types "DROP PRIMARY KEY".toList .dropPrimaryKey := by
  rw [← List.append_nil "DROP PRIMARY KEY".toList]
  exact says_append "DROP PRIMARY KEY" (fun _ => rfl) fun _ _ => rfl

/-- A text that actions are written as one after the other. Each is paired with its own text. -/
def Spells (dialect : Dialect) (types : ColumnTypes) (text : List Char)
    (actions : List WrittenAction) : Prop :=
  ∃ (first : List Char × WrittenAction) (others : List (List Char × WrittenAction)),
    (∀ item ∈ first :: others, Says dialect types item.1 item.2) ∧
      text = first.1 ++ others.flatMap (fun item => ", ".toList ++ item.1) ∧
      actions = (first :: others).map Prod.snd

theorem Says.spells {text : List Char} {action : WrittenAction}
    (h : Says dialect types text action) : Spells dialect types text [action] :=
  ⟨(text, action), [], by simpa using h, (List.append_nil text).symm, rfl⟩

theorem Spells.append {first second : String} {actions others : List WrittenAction}
    (hfirst : Spells dialect types first.toList actions)
    (hsecond : Spells dialect types second.toList others) :
    Spells dialect types (first ++ ", " ++ second).toList (actions ++ others) := by
  obtain ⟨a, as, htexts, htext, rfl⟩ := hfirst
  obtain ⟨b, bs, hothers, hmore, rfl⟩ := hsecond
  refine ⟨a, as ++ b :: bs, ?_, ?_, ?_⟩
  · rw [← List.cons_append]
    exact List.forall_mem_append.mpr ⟨htexts, hothers⟩
  · simp only [String.toList_append, htext, hmore, List.flatMap_append, List.flatMap_cons,
      List.append_assoc]
  · simp

end WrittenAction

/-- The actions that an action is read as, in the dialects that have it. -/
inductive AlterAction.WrittenAs (dialect : Dialect) (types : ColumnTypes) :
    AlterAction → List WrittenAction → Prop
  | addColumn {definition : ColumnDefinition} {written : WrittenColumn}
      (h : definition.WrittenAs dialect written) :
      WrittenAs dialect types (.addColumn definition) [.addLine (.column written)]
  | addColumnWithKey {definition : ColumnDefinition} {written : WrittenColumn} (key : Key)
      (h : definition.WrittenAs dialect written) :
      WrittenAs dialect types (.addColumnWithKey definition key)
        [.addLine (.column written), .addLine (.primaryKey key)]
  | addKey {item : TableItem} {line : TableLine} (h : item.WrittenAs dialect line)
      (hconstraint : WrittenAction.IsConstraint dialect line) :
      WrittenAs dialect types (.addItem item) [.addLine line]
  | modifyColumn {definition : ColumnDefinition} {written : WrittenColumn}
      (hdialect : dialect = .mysql) (h : definition.WrittenAs dialect written)
      (htype : StartsNoPart definition.nativeType) :
      WrittenAs dialect types (.modifyColumn definition) [.modifyColumn written]
  | modifyWithKey {definition : ColumnDefinition} {written : WrittenColumn} (key : Key)
      (h : definition.WrittenAs dialect written) :
      WrittenAs dialect types (.modifyWithKey definition key)
        [.modifyColumn written, .addLine (.primaryKey key)]
  | setType (column : String) {type : String} (hdialect : dialect = .postgres)
      (htype : IsTypeText type) :
      WrittenAs dialect types (.setType column type) [.setType column type none]
  | setNullable (column : String) (nullable : Bool) (hdialect : dialect = .postgres) :
      WrittenAs dialect types (.setNullable column nullable) [.setNullable column nullable]
  | setTypeAndNull (column : String) {type : String} (nullable : Bool)
      (hdialect : dialect = .sqlServer) (htype : IsTypeText type) :
      WrittenAs dialect types (.setTypeAndNull column type nullable)
        [.setType column type (some nullable)]
  | setDefault (column : String) (value : Value) (hdialect : dialect ≠ .sqlServer) :
      WrittenAs dialect types (.setDefault column value)
        [.setDefault column (value.written dialect)]
  | addDefault (constraint column : String) (value : Value) :
      WrittenAs dialect types (.addDefault constraint column value)
        [.addDefault constraint column (value.written dialect)]
  | dropDefault (column : String) (hdialect : dialect ≠ .sqlServer) :
      WrittenAs dialect types (.dropDefault column) [.dropDefault column]
  | addIdentity (column : String) (hdialect : dialect = .postgres) :
      WrittenAs dialect types (.addIdentity column) [.addIdentity column]
  | changeColumn {source type : String} (target : String) (h : types.find? source = some type) :
      WrittenAs dialect types (.changeColumn source target type)
        [.changeColumn source target type]
  | renameColumn (source target : String) :
      WrittenAs dialect types (.renameColumn source target) [.renameColumn source target]
  | dropColumn (name : String) : WrittenAs dialect types (.dropColumn name) [.dropColumn name]
  | dropPrimaryKey : WrittenAs dialect types .dropPrimaryKey [.dropPrimaryKey]
  | dropIndex (name : String) : WrittenAs dialect types (.dropIndex name) [.dropIndex name]
  | dropForeignKey (name : String) :
      WrittenAs dialect types (.dropForeignKey name) [.dropForeignKey name]
  | dropConstraint (name : String) :
      WrittenAs dialect types (.dropConstraint name) [.dropConstraint name]

theorem AlterAction.WrittenAs.spells {dialect : Dialect} {types : ColumnTypes}
    {action : AlterAction} {written : List WrittenAction}
    (h : action.WrittenAs dialect types written) :
    WrittenAction.Spells dialect types (action.sql dialect).toList written := by
  cases h with
  | addColumn h => exact (WrittenAction.says_addColumn h).spells
  | @addColumnWithKey definition written key h =>
    have hcolumn : WrittenAction.Spells dialect types
        (AlterAction.addWord dialect ++ definition.sql dialect).toList
        [.addLine (.column written)] := (WrittenAction.says_addColumn h).spells
    have hsql : (AlterAction.addColumnWithKey definition key).sql dialect =
        AlterAction.addWord dialect ++ definition.sql dialect ++
          (if dialect = .sqlServer then ", " else ", ADD ") ++
            (TableItem.primaryKey key).sql dialect := rfl
    by_cases hdialect : dialect = .sqlServer
    · rw [hsql, if_pos hdialect]
      exact hcolumn.append (WrittenAction.says_keyBehind key).spells
    · have hand : ", ADD " = ", " ++ "ADD " := by decide
      rw [hsql, if_neg hdialect, hand, ← String.append_assoc, String.append_assoc]
      exact hcolumn.append (WrittenAction.says_addPrimaryKey key).spells
  | addKey h hconstraint => exact (WrittenAction.says_addItem h hconstraint).spells
  | modifyColumn hdialect h htype =>
    subst hdialect
    exact (WrittenAction.says_modifyColumn h htype).spells
  | @modifyWithKey definition written key h =>
    have hand : ", ADD " = ", " ++ "ADD " := by decide
    have hsql : (AlterAction.modifyWithKey definition key).sql dialect =
        "MODIFY " ++ definition.sql dialect ++ ", ADD " ++
          (TableItem.primaryKey key).sql dialect := rfl
    rw [hsql, hand, ← String.append_assoc, String.append_assoc]
    exact (WrittenAction.says_modify h).spells.append (WrittenAction.says_addPrimaryKey key).spells
  | setType column hdialect htype =>
    subst hdialect
    exact (WrittenAction.says_setType htype).spells
  | setNullable column nullable hdialect =>
    subst hdialect
    exact (WrittenAction.says_setNullable nullable).spells
  | setTypeAndNull column nullable hdialect htype =>
    subst hdialect
    exact (WrittenAction.says_setTypeAndNull htype nullable).spells
  | setDefault column value hdialect => exact (WrittenAction.says_setDefault hdialect value).spells
  | addDefault constraint column value =>
    exact (WrittenAction.says_addDefault constraint column value).spells
  | dropDefault column hdialect => exact (WrittenAction.says_dropDefault hdialect).spells
  | addIdentity column hdialect =>
    subst hdialect
    exact WrittenAction.says_addIdentity.spells
  | changeColumn target h => exact (WrittenAction.says_changeColumn target h).spells
  | renameColumn source target => exact (WrittenAction.says_renameColumn source target).spells
  | dropColumn name => exact (WrittenAction.says_named "DROP COLUMN " name fun _ => rfl).spells
  | dropPrimaryKey => exact WrittenAction.says_dropPrimaryKey.spells
  | dropIndex name => exact (WrittenAction.says_named "DROP INDEX " name fun _ => rfl).spells
  | dropForeignKey name =>
    exact (WrittenAction.says_named "DROP FOREIGN KEY " name fun _ => rfl).spells
  | dropConstraint name =>
    exact (WrittenAction.says_named "DROP CONSTRAINT " name fun _ => rfl).spells

end SqlDialects
