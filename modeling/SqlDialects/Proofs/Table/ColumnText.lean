import SqlDialects.Proofs.Table.Literals
import SqlDialects.Proofs.Table.Parts

/-! The definition of a column, read off its text: the name, a word for the type and the parts
behind it, in whatever number and order they are written. Some parts belong to the type; the others
are what the definition says about the column. -/

namespace SqlDialects

open Text.Reader Identifier

/-- Whether a line of a table ends in front of a text. -/
def EndsLine (rest : List Char) : Prop := ∀ c ∈ rest.head?, c = ',' ∨ c = '\n'

theorem EndsLine.isPrefixOf_eq_false {rest : List Char} (h : EndsLine rest) {c : Char}
    (hc : c ≠ ',' ∧ c ≠ '\n') (phrase : List Char) : (c :: phrase).isPrefixOf rest = false := by
  cases rest with
  | nil => rfl
  | cons d more =>
    have hne : ¬c = d := by
      rintro rfl
      exact (h c rfl).elim hc.1 hc.2
    simp [List.isPrefixOf, hne]

/-- What can stand in the definition of a column behind the word for its type. -/
inductive ColumnPart where
  | precision
  | size (text : List Char)
  | unsigned
  | autoIncrement
  | identity
  | primaryKeyAutoincrement
  | notNull
  | default (value : Literal)
  | comment (text : List Char)
deriving DecidableEq, Repr

namespace ColumnPart

/-- Whether the part belongs to the type. -/
def isOfType : ColumnPart → Bool
  | precision | size _ | unsigned => true
  | _ => false

/-- The default that a part of a definition is. -/
def default? : ColumnPart → Option Literal
  | default value => some value
  | _ => none

/-- The comment that a part of a definition is. -/
def comment? : ColumnPart → Option String
  | comment text => some (String.ofList text)
  | _ => none

def readers : List (String × Text.Reader ColumnPart) := [
  (" PRECISION", pure .precision),
  ("(", do
    let text ← span (· != ')')
    expect ")"
    return .size text),
  (" UNSIGNED", pure .unsigned),
  (" AUTO_INCREMENT", pure .autoIncrement),
  (" IDENTITY", pure .identity),
  (" PRIMARY KEY AUTOINCREMENT", pure .primaryKeyAutoincrement),
  (" NOT NULL", pure .notNull),
  (" DEFAULT ", do return .default (← Literal.read)),
  (" COMMENT ", do
    expect "'"
    return .comment (← insideQuotes))]

def read : Text.Reader ColumnPart := behind readers

def phrase : ColumnPart → String
  | precision => " PRECISION"
  | size _ => "("
  | unsigned => " UNSIGNED"
  | autoIncrement => " AUTO_INCREMENT"
  | identity => " IDENTITY"
  | primaryKeyAutoincrement => " PRIMARY KEY AUTOINCREMENT"
  | notNull => " NOT NULL"
  | default _ => " DEFAULT "
  | comment _ => " COMMENT "

/-- What stands behind the phrase. -/
def argument : ColumnPart → List Char
  | size text => text ++ ")".toList
  | default value => value.toText
  | comment text => (Literal.quoted text).toText
  | _ => []

def toText (part : ColumnPart) : List Char := part.phrase.toList ++ part.argument

def IsPlain : ColumnPart → Prop
  | size text => ∀ c ∈ text, c != ')'
  | default value => value.IsPlain
  | _ => True

theorem phrase_toList_ne_nil (part : ColumnPart) : part.phrase.toList ≠ [] := by
  cases part <;> dsimp only [phrase] <;> decide

theorem head?_phrase {part : ColumnPart} {c : Char} {rest : List Char}
    (h : c ∈ (part.phrase.toList ++ rest).head?) : c = ' ' ∨ c = '(' := by
  cases part <;> dsimp only [phrase] at h <;> cases h <;> decide

theorem flatMap_toText_append (part : ColumnPart) (parts : List ColumnPart) (rest : List Char) :
    (part :: parts).flatMap toText ++ rest =
      part.phrase.toList ++ (part.argument ++ (parts.flatMap toText ++ rest)) := by
  rw [List.flatMap_cons, toText, List.append_assoc, List.append_assoc]

end ColumnPart

/-- The definition of a column as it is written. -/
structure WrittenColumn where
  name : String
  word : List Char
  parts : List ColumnPart
deriving DecidableEq, Repr

namespace WrittenColumn

def type (column : WrittenColumn) : String :=
  String.ofList (column.word ++ (column.parts.filter ColumnPart.isOfType).flatMap ColumnPart.toText)

/-- What the definition says beside the name and the type. -/
def clauses (column : WrittenColumn) : List ColumnPart :=
  column.parts.filter fun part => !part.isOfType

def read (dialect : Dialect) : Text.Reader WrittenColumn := do
  let name ← readName dialect
  expect " "
  let word ← span Char.isUpper
  let parts ← several ColumnPart.read
  return { name, word, parts }

def toText (dialect : Dialect) (column : WrittenColumn) : List Char :=
  (quote dialect column.name).toList ++ (" ".toList ++
    (column.word ++ column.parts.flatMap ColumnPart.toText))

structure IsPlain (column : WrittenColumn) : Prop where
  word : ∀ c ∈ column.word, c.isUpper
  parts : ∀ part ∈ column.parts, part.IsPlain

end WrittenColumn

section

variable {rest : List Char} (hrest : EndsLine rest)

include hrest

theorem EndsLine.endsPart (parts : List ColumnPart) :
    EndsPart (parts.flatMap ColumnPart.toText ++ rest) := by
  cases parts with
  | nil => exact fun c hc => .inr (.inr (hrest c hc))
  | cons part parts =>
    intro c hc
    rw [ColumnPart.flatMap_toText_append] at hc
    exact (ColumnPart.head?_phrase hc).imp_right .inl

theorem EndsLine.read_eq_none : ColumnPart.read rest = none := by
  have hblank (phrase : List Char) : (' ' :: phrase).isPrefixOf rest = false :=
    hrest.isPrefixOf_eq_false (by decide) phrase
  have hparen (phrase : List Char) : ('(' :: phrase).isPrefixOf rest = false :=
    hrest.isPrefixOf_eq_false (by decide) phrase
  have hmissed : ColumnPart.readers.find? (fun (phrase, _) => phrase.toList.isPrefixOf rest) =
      none := by
    simp [ColumnPart.readers, hblank, hparen]
  simp only [ColumnPart.read, behind, hmissed]

end

namespace ColumnPart

variable {rest : List Char}

theorem read_toText {part : ColumnPart} (h : part.IsPlain) (hrest : EndsPart rest) :
    read (part.toText ++ rest) = some (part, rest) := by
  rw [toText, List.append_assoc]
  cases part with
  | size text =>
    have hclose : ∀ c ∈ (")".toList ++ rest).head?, (c != ')') = false := by
      rintro c ⟨⟩
      rfl
    rw [read, phrase, behind_append rfl, argument, List.append_assoc,
      bind_of_eq (span_append h hclose), bind_of_eq (expect_append _ _)]
    rfl
  | default value =>
    rw [read, phrase, behind_append rfl, argument, bind_of_eq (Literal.read_toText h hrest)]
    rfl
  | comment text =>
    have htext : (Literal.quoted text).toText ++ rest =
        "'".toList ++ (Text.double '\'' text ++ '\'' :: rest) := by simp [Literal.toText]
    rw [read, phrase, behind_append rfl, argument, htext, bind_of_eq (expect_append _ _),
      bind_of_eq (insideQuotes_double text hrest.quote_notMem)]
    rfl
  | _ =>
    rw [read, phrase, behind_append rfl]
    rfl

theorem several_read {parts : List ColumnPart} (h : ∀ part ∈ parts, part.IsPlain)
    (hrest : EndsLine rest) :
    several read (parts.flatMap toText ++ rest) = some (parts, rest) := by
  have hne : ∀ part ∈ parts, part.toText ≠ [] := fun part _ hnil =>
    part.phrase_toList_ne_nil (List.append_eq_nil_iff.mp hnil).1
  have hitem (before : List ColumnPart) (part : ColumnPart) (after : List ColumnPart)
      (hparts : parts = before ++ part :: after) :
      read (part.toText ++ (after.flatMap toText ++ rest)) =
        some (id part, after.flatMap toText ++ rest) :=
    read_toText (h part (by simp [hparts])) (hrest.endsPart after)
  rw [several_append hne hitem hrest.read_eq_none, List.map_id]

end ColumnPart

/-- The definition of a column is read back. -/
theorem WrittenColumn.read_toText {dialect : Dialect} {column : WrittenColumn} {rest : List Char}
    (h : column.IsPlain) (hrest : EndsLine rest) :
    read dialect (column.toText dialect ++ rest) = some (column, rest) := by
  have hname : EndsPath dialect (" ".toList ++ (column.word ++
      (column.parts.flatMap ColumnPart.toText ++ rest))) := endsPath_cons (.inl rfl) _
  have hword : ∀ c ∈ (column.parts.flatMap ColumnPart.toText ++ rest).head?, c.isUpper = false := by
    intro c hc
    rcases hrest.endsPart column.parts c hc with rfl | rfl | rfl | rfl <;> decide
  rw [toText, read]
  simp only [List.append_assoc]
  rw [bind_of_eq (readName_quote column.name hname), bind_of_eq (expect_append _ _),
    bind_of_eq (span_append h.word hword), bind_of_eq (ColumnPart.several_read h.parts hrest)]
  rfl

/-- Whether a type is written as a word in capitals and parts behind it. -/
structure SpellsType (type : String) (word : List Char) (parts : List ColumnPart) : Prop where
  toList_eq : type.toList = word ++ parts.flatMap ColumnPart.toText
  word : ∀ c ∈ word, c.isUpper
  isOfType : ∀ part ∈ parts, part.isOfType
  isPlain : ∀ part ∈ parts, part.IsPlain

/-- A type with a sign. -/
theorem SpellsType.unsigned {type : String} {word : List Char} {parts : List ColumnPart}
    (h : SpellsType type word parts) :
    SpellsType (type ++ " UNSIGNED") word (parts ++ [.unsigned]) where
  toList_eq := by
    rw [String.toList_append, h.toList_eq, List.flatMap_append, List.append_assoc]
    rfl
  word := h.word
  isOfType := List.forall_mem_append.mpr ⟨h.isOfType, by simp [ColumnPart.isOfType]⟩
  isPlain := List.forall_mem_append.mpr ⟨h.isPlain, by simp [ColumnPart.IsPlain]⟩

def IsTypeText (type : String) : Prop := ∃ word parts, SpellsType type word parts

namespace IsTypeText

theorem word {type : String} (h : type.toList.all Char.isUpper) : IsTypeText type :=
  ⟨type.toList, [], (List.append_nil _).symm, List.all_eq_true.mp h, nofun, nofun⟩

theorem precise {type : String} (word : List Char) (hword : word.all Char.isUpper)
    (h : type.toList = word ++ " PRECISION".toList) : IsTypeText type := by
  refine ⟨word, [.precision], ?_, List.all_eq_true.mp hword, by simp [ColumnPart.isOfType],
    by simp [ColumnPart.IsPlain]⟩
  simp [h, ColumnPart.toText, ColumnPart.phrase, ColumnPart.argument]

theorem sized {type : String} (word size : List Char) (hword : word.all Char.isUpper)
    (hsize : size.all (· != ')')) (h : type.toList = word ++ '(' :: (size ++ [')'])) :
    IsTypeText type := by
  refine ⟨word, [.size size], ?_, List.all_eq_true.mp hword, by simp [ColumnPart.isOfType], ?_⟩
  · simp [h, ColumnPart.toText, ColumnPart.phrase, ColumnPart.argument]
  · rintro part hpart
    rw [List.mem_singleton.mp hpart]
    exact List.all_eq_true.mp hsize

end IsTypeText

namespace Column

/-- A number has no parenthesis in it. -/
theorem all_toString_ne (n : UInt32) : (toString n.toNat).toList.all (· != ')') := by
  refine List.all_eq_true.mpr fun c hc => ?_
  rw [Nat.toString_eq_ofList_toDigits, String.toList_ofList] at hc
  have hdigit := Text.isDigit_of_mem_toDigits hc
  refine bne_iff_ne.mpr ?_
  rintro rfl
  exact absurd hdigit (by decide)

theorem isTypeText_decimalType (column : Column) : IsTypeText column.decimalType := by
  unfold decimalType
  split
  case h_1 n places _ _ =>
    refine .sized "DECIMAL".toList
      ((toString n.toNat).toList ++ ',' :: (toString places.toNat).toList) rfl ?_ ?_
    · rw [List.all_append, List.all_cons, all_toString_ne n, all_toString_ne places]
      rfl
    · simp
  case h_2 n _ _ =>
    exact .sized "DECIMAL".toList _ rfl (all_toString_ne n) (by simp)
  case h_3 => exact .word rfl

theorem isTypeText_withLength (column : Column) {type : String}
    (h : type.toList.all Char.isUpper) : IsTypeText (column.withLength type) :=
  .sized type.toList _ h (all_toString_ne column.lengthOrDefault) (by simp [withLength])

theorem isTypeText_oneSize {dialect : Dialect} {column : Column} {type : String}
    (h : IsTypeText type) : Yields IsTypeText (column.oneSize dialect type) := by
  unfold oneSize
  split
  · exact .ok h
  · rintro _ ⟨⟩

theorem isTypeText_mysqlType (column : Column) : Yields IsTypeText column.mysqlType := by
  unfold mysqlType
  split
  case h_1 | h_2 | h_6 | h_7 =>
    split <;> first | exact .ok (.word rfl) | rintro _ ⟨⟩
  case h_3 => exact isTypeText_oneSize (.word rfl)
  case h_4 => exact isTypeText_oneSize column.isTypeText_decimalType
  case h_5 => exact isTypeText_oneSize (.sized "TINYINT".toList ['1'] rfl rfl rfl)
  case h_8 | h_9 => exact isTypeText_oneSize (column.isTypeText_withLength rfl)
  all_goals exact .ok (.word rfl)

theorem isTypeText_postgresType (column : Column) : Yields IsTypeText column.postgresType := by
  have hdouble : IsTypeText "DOUBLE PRECISION" := .precise "DOUBLE".toList rfl rfl
  unfold postgresType
  split
  case h_1 => split <;> exact .ok (.word rfl)
  case h_2 => split <;> first | exact .ok (.word rfl) | exact .ok hdouble | rintro _ ⟨⟩
  case h_3 => exact isTypeText_oneSize hdouble
  case h_4 => exact isTypeText_oneSize column.isTypeText_decimalType
  case h_5 => exact isTypeText_oneSize (.word rfl)
  case h_8 | h_9 => exact isTypeText_oneSize (column.isTypeText_withLength rfl)
  all_goals exact .ok (.word rfl)

theorem isTypeText_sqliteType (column : Column) : Yields IsTypeText column.sqliteType := by
  unfold sqliteType
  split
  case h_1 | h_2 => split <;> first | exact .ok (.word rfl) | rintro _ ⟨⟩
  case h_3 | h_5 => exact isTypeText_oneSize (.word rfl)
  case h_4 => exact isTypeText_oneSize column.isTypeText_decimalType
  case h_8 | h_9 => exact isTypeText_oneSize (column.isTypeText_withLength rfl)
  all_goals exact .ok (.word rfl)

theorem isTypeText_sqlServerType (column : Column) : Yields IsTypeText column.sqlServerType := by
  have hsized (word size : String) (hword : word.toList.all Char.isUpper)
      (hsize : size.toList.all (· != ')')) : IsTypeText (word ++ "(" ++ size ++ ")") :=
    .sized word.toList size.toList hword hsize (by simp)
  unfold sqlServerType
  split
  case h_1 | h_2 => split <;> first | exact .ok (.word rfl) | rintro _ ⟨⟩
  case h_3 | h_5 => exact isTypeText_oneSize (.word rfl)
  case h_4 => exact isTypeText_oneSize column.isTypeText_decimalType
  case h_6 =>
    split
    iterate 2 exact .ok (hsized "NVARCHAR" "255" rfl rfl)
    all_goals exact .ok (hsized "NVARCHAR" "MAX" rfl rfl)
  case h_7 =>
    split
    iterate 2 exact .ok (hsized "VARBINARY" "255" rfl rfl)
    all_goals exact .ok (hsized "VARBINARY" "MAX" rfl rfl)
  case h_8 | h_9 => exact isTypeText_oneSize (column.isTypeText_withLength rfl)
  all_goals exact .ok (.word rfl)

/-- A native type is a word and parts of types. -/
theorem isTypeText_nativeType (dialect : Dialect) (column : Column) :
    Yields IsTypeText (column.nativeType dialect) := by
  cases dialect with
  | mysql =>
    have hmap : column.nativeType .mysql =
        column.mysqlType >>= fun type => pure (type ++ column.mysqlSign) :=
      (bind_pure_comp _ column.mysqlType).symm
    rw [hmap]
    refine column.isTypeText_mysqlType.map fun type h => ?_
    obtain ⟨word, parts, htype⟩ := h
    unfold mysqlSign
    split
    case h_5 => exact ⟨word, parts, by rw [String.append_empty]; exact htype⟩
    all_goals exact ⟨word, _, htype.unsigned⟩
  | postgres => exact column.isTypeText_postgresType
  | sqlite => exact column.isTypeText_sqliteType
  | sqlServer => exact column.isTypeText_sqlServerType

/-- How the mark of an auto-incrementing column is written. -/
def autoincrementClauses : Dialect → List ColumnPart
  | .mysql => [.autoIncrement]
  | .postgres => []
  | .sqlite => [.primaryKeyAutoincrement]
  | .sqlServer => [.identity]

/-- What the definition of the column says in a dialect beside the name and the type. -/
def clauses (dialect : Dialect) (column : Column) : List ColumnPart :=
  (if column.options.autoincrement then autoincrementClauses dialect else []) ++
    (if column.options.nullable then [] else [.notNull]) ++
    column.options.default.toList.map (fun value => .default (value.written dialect)) ++
    (if dialect = .mysql then column.options.description.toList.map fun text => .comment text.toList
      else [])

end Column

/-- Whether what is written defines the column. -/
structure WrittenColumn.Declares (dialect : Dialect) (written : WrittenColumn) (column : Column) :
    Prop where
  name_eq : written.name = column.name
  nativeType_eq : column.nativeType dialect = .ok written.type
  clauses_eq : written.clauses = column.clauses dialect

/-- Whether what is written is the definition. -/
structure ColumnDefinition.WrittenAs (dialect : Dialect) (definition : ColumnDefinition)
    (written : WrittenColumn) : Prop where
  isPlain : written.IsPlain
  toText_eq : (definition.sql dialect).toList = written.toText dialect
  name_eq : written.name = definition.name
  comments_eq : written.clauses.filterMap ColumnPart.comment? = definition.comment.toList
  defaults_eq : written.clauses.filterMap ColumnPart.default? =
    definition.default.toList.map (Value.written dialect)

namespace Column

variable {dialect : Dialect} {column : Column}

theorem isPlain_of_mem_clauses {part : ColumnPart} (h : part ∈ column.clauses dialect) :
    part.isOfType = false ∧ part.IsPlain := by
  rcases List.mem_append.mp h with h | h
  · rcases List.mem_append.mp h with h | h
    · rcases List.mem_append.mp h with h | h
      · split at h
        · cases dialect <;> cases h <;> first | exact ⟨rfl, trivial⟩ | contradiction
        · cases h
      · split at h
        · cases h
        · cases List.mem_singleton.mp h
          exact ⟨rfl, trivial⟩
    · obtain ⟨value, -, rfl⟩ := List.mem_map.mp h
      exact ⟨rfl, value.isPlain_written dialect⟩
  · split at h
    · obtain ⟨text, -, rfl⟩ := List.mem_map.mp h
      exact ⟨rfl, trivial⟩
    · cases h

/-- The text behind the type of a column is that of its clauses. -/
theorem toList_sql_defined (column : Column) (type : String) :
    ((column.defined dialect type).sql dialect).toList =
      (quote dialect column.name).toList ++ (" ".toList ++
        (type.toList ++ (column.clauses dialect).flatMap ColumnPart.toText)) := by
  have hmark : (column.defined dialect type).autoincrement.sql.toList =
      (if column.options.autoincrement then autoincrementClauses dialect else []).flatMap
        ColumnPart.toText := by
    dsimp only [defined]
    cases column.options.autoincrement <;> cases dialect <;> decide
  have hnull : (if (column.defined dialect type).nullable then "" else " NOT NULL").toList =
      (if column.options.nullable then [] else [.notNull]).flatMap ColumnPart.toText := by
    rw [show (column.defined dialect type).nullable = column.options.nullable from rfl]
    cases column.options.nullable <;> rfl
  have hdefault : ((column.defined dialect type).defaultSql dialect).toList =
      (column.options.default.toList.map fun value =>
        ColumnPart.default (value.written dialect)).flatMap ColumnPart.toText := by
    unfold defined ColumnDefinition.defaultSql
    cases column.options.default with
    | none => rfl
    | some value =>
      simp [ColumnPart.toText, ColumnPart.phrase, ColumnPart.argument, value.toText_written dialect]
  have hcomment : (column.defined dialect type).commentSql.toList =
      (if dialect = .mysql then column.options.description.toList.map fun text =>
        ColumnPart.comment text.toList else []).flatMap ColumnPart.toText := by
    unfold defined ColumnDefinition.commentSql
    by_cases hdialect : dialect = .mysql
    · rw [if_pos hdialect, if_pos hdialect]
      cases column.options.description with
      | none => rfl
      | some text =>
        simp [ColumnPart.toText, ColumnPart.phrase, ColumnPart.argument, Literal.toText,
          quoteString]
    · rw [if_neg hdialect, if_neg hdialect]
      rfl
  rw [ColumnDefinition.sql_eq, ColumnDefinition.headSql]
  simp only [String.toList_append, hmark, hnull, hdefault, hcomment, clauses,
    List.flatMap_append, List.append_assoc]
  rfl

theorem comments_clauses (dialect : Dialect) (column : Column) :
    (column.clauses dialect).filterMap ColumnPart.comment? =
      if dialect = .mysql then column.options.description.toList else [] := by
  have hmark : (if column.options.autoincrement then autoincrementClauses dialect
      else []).filterMap ColumnPart.comment? = [] := by
    cases column.options.autoincrement <;> cases dialect <;> rfl
  have hnull : (if column.options.nullable then [] else [.notNull]).filterMap
      ColumnPart.comment? = [] := by
    cases column.options.nullable <;> rfl
  have hdefault : (column.options.default.toList.map fun value =>
      ColumnPart.default (value.written dialect)).filterMap ColumnPart.comment? = [] := by
    cases column.options.default <;> rfl
  rw [clauses, List.filterMap_append, List.filterMap_append, List.filterMap_append, hmark, hnull,
    hdefault]
  split
  · cases column.options.description with
    | none => rfl
    | some text => simp [ColumnPart.comment?]
  · rfl

theorem defaults_clauses (dialect : Dialect) (column : Column) :
    (column.clauses dialect).filterMap ColumnPart.default? =
      column.options.default.toList.map (Value.written dialect) := by
  have hmark : (if column.options.autoincrement then autoincrementClauses dialect
      else []).filterMap ColumnPart.default? = [] := by
    cases column.options.autoincrement <;> cases dialect <;> rfl
  have hnull : (if column.options.nullable then [] else [.notNull]).filterMap
      ColumnPart.default? = [] := by
    cases column.options.nullable <;> rfl
  have hcomment : (if dialect = .mysql then column.options.description.toList.map fun text =>
      ColumnPart.comment text.toList else []).filterMap ColumnPart.default? = [] := by
    cases column.options.description <;> cases dialect <;> rfl
  rw [clauses, List.filterMap_append, List.filterMap_append, List.filterMap_append, hmark, hnull,
    hcomment]
  cases column.options.default <;> rfl

/-- The definition of a column is written as one that says the same and declares the column. -/
theorem exists_written (dialect : Dialect) (column : Column) :
    Yields (fun definition => ∃ written, definition.WrittenAs dialect written ∧
      written.Declares dialect column) (column.definition dialect) := by
  rw [definition_eq]
  refine .after fun _ definition h => ?_
  obtain ⟨type, htype, rfl⟩ := map_eq_ok_iff.mp h
  obtain ⟨word, parts, hspells⟩ := column.isTypeText_nativeType dialect type htype
  have hclauses (part : ColumnPart) (h : part ∈ column.clauses dialect) := isPlain_of_mem_clauses h
  have htypeParts : (parts ++ column.clauses dialect).filter ColumnPart.isOfType = parts := by
    rw [List.filter_append, List.filter_eq_self.mpr hspells.isOfType,
      List.filter_eq_nil_iff.mpr fun part h => by simp [(hclauses part h).1], List.append_nil]
  have hothers : (parts ++ column.clauses dialect).filter (fun part => !part.isOfType) =
      column.clauses dialect := by
    rw [List.filter_append,
      List.filter_eq_nil_iff.mpr fun part h => by simp [hspells.isOfType part h],
      List.filter_eq_self.mpr fun part h => by simp [(hclauses part h).1], List.nil_append]
  let written : WrittenColumn := ⟨column.name, word, parts ++ column.clauses dialect⟩
  have hdeclares : written.Declares dialect column := by
    refine ⟨rfl, ?_, hothers⟩
    rw [WrittenColumn.type, htypeParts, ← hspells.toList_eq, String.ofList_toList]
    exact htype
  refine ⟨written, ⟨⟨hspells.word, ?_⟩, ?_, rfl, ?_, ?_⟩, hdeclares⟩
  · exact List.forall_mem_append.mpr ⟨hspells.isPlain, fun part h => (hclauses part h).2⟩
  · rw [toList_sql_defined, hspells.toList_eq, WrittenColumn.toText, List.flatMap_append,
      List.append_assoc]
  · rw [hdeclares.clauses_eq, comments_clauses]
    dsimp only [defined]
    split <;> rfl
  · rw [hdeclares.clauses_eq, defaults_clauses]
    rfl

end Column

end SqlDialects
