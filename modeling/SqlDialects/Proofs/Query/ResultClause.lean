import SqlDialects.Proofs.Identifier.Path
import SqlDialects.Proofs.Lexing.Clauses
import SqlDialects.Proofs.Text.Reading

/-! The clauses that sort and cut the result of a query, as they are read off its text. A reader for
them knows the clauses of all dialects, and the names of columns as the dialect at hand delimits
them. It takes the texts of sorts and pages back to what they say. -/

namespace SqlDialects

/-- A column by the parts of its path. -/
abbrev ColumnPath := List (List Char)

/-- What a term of a sort compares. -/
inductive SortExpression where
  | cell (path : ColumnPath)
  /-- One for a null and zero for anything else. -/
  | isNull (path : ColumnPath)
  /-- A number for a null and another one for anything else. -/
  | rank (path : ColumnPath) (ofNull ofOther : Nat)
deriving DecidableEq, Repr

structure SortTerm where
  expression : SortExpression
  direction : Direction
  nulls : Option NullsPlacement
deriving DecidableEq, Repr

inductive ResultClause where
  | sort (terms : List SortTerm)
  | page (clause : PageClause)
deriving DecidableEq, Repr

open Text.Reader

namespace SortTerm

def readColumn (dialect : Dialect) : Text.Reader ColumnPath := do
  return (← Identifier.readPath dialect).map Identifier.PathPart.text

def readExpression (dialect : Dialect) : Text.Reader SortExpression := do
  if ← takes "CASE WHEN " then
    let path ← readColumn dialect
    expect " IS NULL THEN "
    let ofNull ← number
    expect " ELSE "
    let ofOther ← number
    expect " END"
    return .rank path ofNull ofOther
  else
    let path ← readColumn dialect
    return if ← takes " IS NULL" then .isNull path else .cell path

/-- The direction, ascending where none is written. -/
def readDirection : Text.Reader Direction := do
  if ← takes " DESC" then return .descending
  let _ ← takes " ASC"
  return .ascending

def readNulls : Text.Reader (Option NullsPlacement) := do
  if ← takes " NULLS FIRST" then return some .first
  if ← takes " NULLS LAST" then return some .last
  return none

def read (dialect : Dialect) : Text.Reader SortTerm := do
  let expression ← readExpression dialect
  let direction ← readDirection
  let nulls ← readNulls
  return ⟨expression, direction, nulls⟩

def readNext (dialect : Dialect) : Text.Reader SortTerm := do
  expect ", "
  read dialect

/-- The terms of a sort with commas between them. -/
def readList (dialect : Dialect) : Text.Reader (List SortTerm) := do
  let first ← read dialect
  return first :: (← several (readNext dialect))

end SortTerm

namespace PageClause

def readLimit : Text.Reader PageClause := do
  if ← takes "-1" then return .unlimited
  return .limit (← number)

def readOffset : Text.Reader PageClause := do
  let count ← number
  return if ← takes " ROWS" then .offsetRows count else .offset count

def readFetch : Text.Reader PageClause := do
  let count ← number
  expect " ROWS ONLY"
  return .fetchNext count

def readTop : Text.Reader PageClause := do
  let count ← number
  expect ") "
  return .top count

def read : Text.Reader PageClause :=
  behind [(" LIMIT ", readLimit), (" OFFSET ", readOffset), (" FETCH NEXT ", readFetch),
    (" ORDER BY (SELECT 0)", pure .sortByConstant), ("TOP (", readTop)]

end PageClause

namespace ResultClause

def readSort (dialect : Dialect) : Text.Reader (List SortTerm) := do
  expect " ORDER BY "
  SortTerm.readList dialect

def read (dialect : Dialect) : Text.Reader ResultClause := fun text =>
  match readSort dialect text with
  | some (terms, rest) => some (.sort terms, rest)
  | none => (PageClause.read text).map fun (clause, rest) => (.page clause, rest)

/-- The clauses that a text consists of. -/
def listOf? (dialect : Dialect) (text : String) : Option (List ResultClause) :=
  (several (read dialect)).readAll text.toList

end ResultClause

/-- Whether a clause can end in front of a text: at the end, or where the next clause starts. -/
def EndsClause (rest : List Char) : Prop :=
  rest = [] ∨ ∃ letter ∈ ['L', 'O', 'F'], ∃ more, rest = ' ' :: letter :: more

/-- Whether a term of a sort can end in front of a text: also where the next term starts. -/
def EndsTerm (rest : List Char) : Prop := (∃ more, rest = ',' :: more) ∨ EndsClause rest

namespace EndsTerm

variable {rest : List Char}

theorem endsDigits (h : EndsTerm rest) : Text.EndsDigits rest := by
  obtain ⟨more, rfl⟩ | rfl | ⟨letter, -, more, rfl⟩ := h
  · exact Text.endsDigits_cons rfl
  · exact Text.endsDigits_nil
  · exact Text.endsDigits_cons rfl

/-- A phrase inside a term starts with another letter than the clauses do, so it is not taken. -/
theorem takes_eq (h : EndsTerm rest) {phrase : String} {letter : Char} {more : List Char}
    (hphrase : phrase.toList = ' ' :: letter :: more) (hletter : letter ∉ ['L', 'O', 'F']) :
    takes phrase rest = some (false, rest) := by
  apply takes_of_not_isPrefixOf
  rw [hphrase]
  obtain ⟨_, rfl⟩ | rfl | ⟨other, hother, _, rfl⟩ := h
  · rfl
  · rfl
  · have hne : letter ≠ other := fun heq => hletter (heq ▸ hother)
    simp [List.isPrefixOf, hne]

end EndsTerm

theorem EndsClause.endsTerm {rest : List Char} (h : EndsClause rest) : EndsTerm rest := .inr h

namespace SortTerm

variable {dialect : Dialect} {rest : List Char}

theorem readColumn_quote (name : String) (hrest : Identifier.EndsPath dialect rest) :
    readColumn dialect ((Identifier.quote dialect name).toList ++ rest) =
      some (name.toList.splitOn '.', rest) := by
  rw [readColumn, bind_of_eq (Identifier.readPath_quote name hrest),
    Identifier.map_text_pathPart]
  rfl

/-- No column is written like the start of a case distinction: its first word is reserved, and where
case is folded, it is no bare word at all. -/
theorem takes_case_quote (name : String) (hrest : Identifier.EndsPath dialect rest) :
    takes "CASE WHEN " ((Identifier.quote dialect name).toList ++ rest) =
      some (false, (Identifier.quote dialect name).toList ++ rest) := by
  refine Identifier.takes_reserved_quote "CASE".toList name hrest (by decide) fun more => ?_
  cases dialect with
  | postgres => exact .inl rfl
  | _ => exact .inr ⟨_, rfl⟩

theorem readDirection_sql (direction : Direction) (rest : List Char) :
    readDirection (" ".toList ++ (direction.sql.toList ++ rest)) = some (direction, rest) := by
  cases direction with
  | ascending =>
    have hdesc : takes " DESC" (" ASC".toList ++ rest) = some (false, " ASC".toList ++ rest) :=
      takes_of_not_isPrefixOf rfl
    show readDirection (" ASC".toList ++ rest) = _
    rw [readDirection, ite_takes_of_missed hdesc, bind_of_eq (takes_append " ASC" rest)]
    rfl
  | descending =>
    show readDirection (" DESC".toList ++ rest) = _
    rw [readDirection, ite_takes_append]
    rfl

theorem readDirection_of_endsTerm (h : EndsTerm rest) :
    readDirection rest = some (.ascending, rest) := by
  rw [readDirection, ite_takes_of_missed (h.takes_eq rfl (by decide)),
    bind_of_eq (h.takes_eq rfl (by decide))]
  rfl

/-- The text of a placement of nulls, if there is one. -/
def nullsText (nulls : Option NullsPlacement) : String :=
  match nulls with
  | none => ""
  | some placement => placement.sql

theorem readNulls_text (nulls : Option NullsPlacement) (h : EndsTerm rest) :
    readNulls ((nullsText nulls).toList ++ rest) = some (nulls, rest) := by
  cases nulls with
  | none =>
    show readNulls rest = _
    rw [readNulls, ite_takes_of_missed (h.takes_eq rfl (by decide)),
      ite_takes_of_missed (h.takes_eq rfl (by decide))]
    rfl
  | some placement =>
    cases placement with
    | first =>
      show readNulls (" NULLS FIRST".toList ++ rest) = _
      rw [readNulls, ite_takes_append]
      rfl
    | last =>
      have hfirst : takes " NULLS FIRST" (" NULLS LAST".toList ++ rest) =
          some (false, " NULLS LAST".toList ++ rest) := takes_of_not_isPrefixOf rfl
      show readNulls (" NULLS LAST".toList ++ rest) = _
      rw [readNulls, ite_takes_of_missed hfirst, ite_takes_append]
      rfl

theorem readExpression_cell (name : String) (direction : Direction) (rest : List Char) :
    readExpression dialect
        ((Identifier.quote dialect name).toList ++ (" ".toList ++ (direction.sql.toList ++ rest))) =
      some (.cell (name.toList.splitOn '.'), " ".toList ++ (direction.sql.toList ++ rest)) := by
  have hends : Identifier.EndsPath dialect (" ".toList ++ (direction.sql.toList ++ rest)) :=
    Identifier.endsPath_cons (.inl rfl) _
  have hnull : takes " IS NULL" (" ".toList ++ (direction.sql.toList ++ rest)) =
      some (false, " ".toList ++ (direction.sql.toList ++ rest)) := by
    cases direction <;> exact takes_of_not_isPrefixOf rfl
  rw [readExpression, ite_takes_of_missed (takes_case_quote name hends),
    bind_of_eq (readColumn_quote name hends), bind_of_eq hnull]
  rfl

theorem readExpression_isNull (name : String) (rest : List Char) :
    readExpression dialect
        ((Identifier.quote dialect name).toList ++ (" IS NULL".toList ++ rest)) =
      some (.isNull (name.toList.splitOn '.'), rest) := by
  have hends : Identifier.EndsPath dialect (" IS NULL".toList ++ rest) :=
    Identifier.endsPath_cons (.inl rfl) _
  rw [readExpression, ite_takes_of_missed (takes_case_quote name hends),
    bind_of_eq (readColumn_quote name hends), bind_of_eq (takes_append " IS NULL" rest)]
  rfl

theorem readExpression_rank (name : String) (ofNull ofOther : Nat) (rest : List Char) :
    readExpression dialect
        ("CASE WHEN ".toList ++ ((Identifier.quote dialect name).toList ++
          (" IS NULL THEN ".toList ++ ((toString ofNull).toList ++
            (" ELSE ".toList ++ ((toString ofOther).toList ++ (" END".toList ++ rest))))))) =
      some (.rank (name.toList.splitOn '.') ofNull ofOther, rest) := by
  have hends (text : List Char) :
      Identifier.EndsPath dialect (" IS NULL THEN ".toList ++ text) :=
    Identifier.endsPath_cons (.inl rfl) _
  have hofNull (text : List Char) : Text.EndsDigits (" ELSE ".toList ++ text) :=
    Text.endsDigits_cons rfl
  have hofOther : Text.EndsDigits (" END".toList ++ rest) := Text.endsDigits_cons rfl
  rw [readExpression, ite_takes_append, bind_of_eq (readColumn_quote name (hends _)),
    bind_of_eq (expect_append " IS NULL THEN " _),
    bind_of_eq (number_append ofNull (hofNull _)), bind_of_eq (expect_append " ELSE " _),
    bind_of_eq (number_append ofOther hofOther), bind_of_eq (expect_append " END" rest)]
  rfl

end SortTerm

/-- What a key says, over the column with this path. -/
def SortKey.term (path : ColumnPath) : SortKey → SortTerm
  | column _ direction nulls => ⟨.cell path, direction, nulls⟩
  | isNull _ direction => ⟨.isNull path, direction, none⟩
  | rank _ ofNull ofOther => ⟨.rank path ofNull ofOther, .ascending, none⟩

theorem SortKey.sql_column (name : String) (direction : Direction)
    (nulls : Option NullsPlacement) :
    (column name direction nulls).sql =
      name ++ (" " ++ direction.sql ++ SortTerm.nullsText nulls) := by
  rw [← String.append_assoc, ← String.append_assoc]
  cases nulls <;> rfl

theorem SortKey.sql_isNull (name : String) (direction : Direction) :
    (isNull name direction).sql = name ++ (" IS NULL" ++ (" " ++ direction.sql)) := by
  have hblank : " IS NULL" ++ " " = " IS NULL " := by decide
  calc name ++ " IS NULL " ++ direction.sql
      = name ++ (" IS NULL" ++ " ") ++ direction.sql := by rw [hblank]
    _ = name ++ (" IS NULL" ++ (" " ++ direction.sql)) := by simp only [String.append_assoc]

theorem SortKey.sql_rank (name : String) (ofNull ofOther : Nat) :
    (rank name ofNull ofOther).sql =
      "CASE WHEN " ++ name ++ " IS NULL THEN " ++ toString ofNull ++ " ELSE " ++
        toString ofOther ++ " END" := rfl

/-- A key over a column is read back. -/
theorem SortTerm.read_sql {dialect : Dialect} {rest : List Char} {key : SortKey} {name : String}
    (hname : key.name = Identifier.quote dialect name) (h : EndsTerm rest) :
    SortTerm.read dialect (key.sql.toList ++ rest) =
      some (key.term (name.toList.splitOn '.'), rest) := by
  have hnone : readNulls rest = some (none, rest) := readNulls_text none h
  cases key with
  | column written direction nulls =>
    obtain rfl : written = Identifier.quote dialect name := hname
    simp only [SortKey.sql_column, String.toList_append, List.append_assoc]
    rw [read, bind_of_eq (readExpression_cell name direction _),
      bind_of_eq (readDirection_sql direction _), bind_of_eq (readNulls_text nulls h)]
    rfl
  | isNull written direction =>
    obtain rfl : written = Identifier.quote dialect name := hname
    simp only [SortKey.sql_isNull, String.toList_append, List.append_assoc]
    rw [read, bind_of_eq (readExpression_isNull name _),
      bind_of_eq (readDirection_sql direction _), bind_of_eq hnone]
    rfl
  | rank written ofNull ofOther =>
    obtain rfl : written = Identifier.quote dialect name := hname
    simp only [SortKey.sql_rank, String.toList_append, List.append_assoc]
    rw [read, bind_of_eq (readExpression_rank name ofNull ofOther rest),
      bind_of_eq (readDirection_of_endsTerm h), bind_of_eq hnone]
    rfl

/-- What an item says in a dialect. -/
def OrderItem.terms (dialect : Dialect) (item : OrderItem) : List SortTerm :=
  (item.keys dialect).map (SortKey.term (item.column.toList.splitOn '.'))

namespace Sorting

variable {dialect : Dialect} {rest : List Char}

def terms (dialect : Dialect) (items : List OrderItem) : List SortTerm :=
  items.flatMap (OrderItem.terms dialect)

/-- Every key beside what it says. -/
def readings (dialect : Dialect) (items : List OrderItem) : List (SortKey × SortTerm) :=
  items.flatMap fun item =>
    (item.keys dialect).map fun key => (key, key.term (item.column.toList.splitOn '.'))

theorem map_fst_readings (items : List OrderItem) :
    (readings dialect items).map Prod.fst = keys dialect items := by
  simp [readings, keys, List.map_flatMap, Function.comp_def]

theorem map_snd_readings (items : List OrderItem) :
    (readings dialect items).map Prod.snd = terms dialect items := by
  simp only [readings, List.map_flatMap, List.map_map]
  rfl

theorem read_of_mem_readings {items : List OrderItem} {key : SortKey} {term : SortTerm}
    (h : (key, term) ∈ readings dialect items) (hrest : EndsTerm rest) :
    SortTerm.read dialect (key.sql.toList ++ rest) = some (term, rest) := by
  obtain ⟨item, -, hmem⟩ := List.mem_flatMap.mp h
  obtain ⟨written, hkey, heq⟩ := List.mem_map.mp hmem
  obtain ⟨rfl, rfl⟩ := Prod.mk.inj heq
  exact SortTerm.read_sql (OrderItem.name_of_mem_keys hkey) hrest

/-- The terms after the first one, as they are written. -/
def moreText (more : List (SortKey × SortTerm)) : List Char :=
  more.flatMap fun (key, _) => ", ".toList ++ key.sql.toList

theorem endsTerm_moreText (more : List (SortKey × SortTerm)) (hrest : EndsTerm rest) :
    EndsTerm (moreText more ++ rest) := by
  cases more with
  | nil => exact hrest
  | cons _ _ => exact .inl ⟨_, rfl⟩

theorem readNext_of_mem_readings {items : List OrderItem} {key : SortKey} {term : SortTerm}
    (h : (key, term) ∈ readings dialect items) (hrest : EndsTerm rest) :
    SortTerm.readNext dialect (", ".toList ++ key.sql.toList ++ rest) = some (term, rest) := by
  rw [List.append_assoc, SortTerm.readNext, bind_of_eq (expect_append ", " _),
    read_of_mem_readings h hrest]

theorem readings_ne_nil {items : List OrderItem} (h : items ≠ []) :
    readings dialect items ≠ [] := by
  intro hnil
  obtain ⟨item, others, rfl⟩ := List.exists_cons_of_ne_nil h
  have hkeys : item.keys dialect ≠ [] := by
    unfold OrderItem.keys
    split <;> simp
  rw [readings, List.flatMap_cons, List.append_eq_nil_iff, List.map_eq_nil_iff] at hnil
  exact hkeys hnil.1

theorem text_of_ne_nil {items : List OrderItem} (h : items ≠ []) :
    text dialect items = " ORDER BY " ++ Text.join ", " ((keys dialect items).map SortKey.sql) := by
  cases items with
  | nil => exact absurd rfl h
  | cons _ _ => rfl

/-- A sort is read back. -/
theorem readSort_text {items : List OrderItem} (h : items ≠ []) (hrest : EndsClause rest) :
    ResultClause.readSort dialect ((text dialect items).toList ++ rest) =
      some (terms dialect items, rest) := by
  obtain ⟨⟨key, term⟩, more, hmore⟩ :
      ∃ entry more, readings dialect items = entry :: more :=
    List.exists_cons_of_ne_nil (readings_ne_nil h)
  have hmem (entry : SortKey × SortTerm) (hentry : entry ∈ more) :
      entry ∈ readings dialect items := hmore ▸ List.mem_cons_of_mem _ hentry
  have htext : (text dialect items).toList ++ rest =
      " ORDER BY ".toList ++ (key.sql.toList ++ (moreText more ++ rest)) := by
    rw [text_of_ne_nil h, ← map_fst_readings, hmore, List.map_cons, List.map_cons,
      String.toList_append, Text.toList_join_cons, List.map_map, List.flatMap_map]
    simp only [List.append_assoc]
    rfl
  have hfirst : SortTerm.read dialect (key.sql.toList ++ (moreText more ++ rest)) =
      some (term, moreText more ++ rest) :=
    read_of_mem_readings (hmore ▸ List.mem_cons_self) (endsTerm_moreText more hrest.endsTerm)
  have hnext : several (SortTerm.readNext dialect) (moreText more ++ rest) =
      some (more.map Prod.snd, rest) := by
    refine several_append (fun _ _ => List.cons_ne_nil _ _) ?_ ?_
    · rintro before ⟨key, term⟩ after rfl
      exact readNext_of_mem_readings (hmem _ (by simp)) (endsTerm_moreText after hrest.endsTerm)
    · refine expect_bind_of_not_isPrefixOf ?_
      obtain rfl | ⟨letter, -, more, rfl⟩ := hrest <;> rfl
  rw [htext, ResultClause.readSort, bind_of_eq (expect_append " ORDER BY " _), SortTerm.readList,
    bind_of_eq hfirst, bind_of_eq hnext, ← map_snd_readings, hmore]
  rfl

end Sorting

namespace PageClause

variable {rest : List Char}

/-- A count has no sign. -/
theorem takes_toString (n : Nat) (rest : List Char) :
    takes "-1" ((toString n).toList ++ rest) = some (false, (toString n).toList ++ rest) := by
  obtain ⟨c, more, hdigits, hc⟩ := Text.exists_toDigits_eq_cons n
  have hne : '-' ≠ c := by
    rintro rfl
    cases hc
  apply takes_of_not_isPrefixOf
  rw [Nat.toString_eq_ofList_toDigits, String.toList_ofList, hdigits]
  simp [List.isPrefixOf, hne]

theorem readLimit_toString (n : Nat) (hrest : Text.EndsDigits rest) :
    readLimit ((toString n).toList ++ rest) = some (.limit n, rest) := by
  rw [readLimit, ite_takes_of_missed (takes_toString n rest), bind_of_eq (number_append n hrest)]
  rfl

theorem readOffset_toString (n : Nat) (hrest : EndsClause rest) :
    readOffset ((toString n).toList ++ rest) = some (.offset n, rest) := by
  rw [readOffset, bind_of_eq (number_append n hrest.endsTerm.endsDigits),
    bind_of_eq (hrest.endsTerm.takes_eq rfl (by decide))]
  rfl

theorem readOffset_rows (n : Nat) (rest : List Char) :
    readOffset ((toString n).toList ++ (" ROWS".toList ++ rest)) = some (.offsetRows n, rest) := by
  have hends : Text.EndsDigits (" ROWS".toList ++ rest) := Text.endsDigits_cons rfl
  rw [readOffset, bind_of_eq (number_append n hends), bind_of_eq (takes_append " ROWS" rest)]
  rfl

theorem readFetch_rows (n : Nat) (rest : List Char) :
    readFetch ((toString n).toList ++ (" ROWS ONLY".toList ++ rest)) =
      some (.fetchNext n, rest) := by
  have hends : Text.EndsDigits (" ROWS ONLY".toList ++ rest) := Text.endsDigits_cons rfl
  rw [readFetch, bind_of_eq (number_append n hends), bind_of_eq (expect_append " ROWS ONLY" rest)]
  rfl

theorem readTop_paren (n : Nat) (rest : List Char) :
    readTop ((toString n).toList ++ (") ".toList ++ rest)) = some (.top n, rest) := by
  have hends : Text.EndsDigits (") ".toList ++ rest) := Text.endsDigits_cons rfl
  rw [readTop, bind_of_eq (number_append n hends), bind_of_eq (expect_append ") " rest)]
  rfl

/-- A clause is read back. -/
theorem read_sql (clause : PageClause) (hrest : EndsClause rest) :
    read (clause.sql.toList ++ rest) = some (clause, rest) := by
  have hlimit (text : List Char) : read (" LIMIT ".toList ++ text) = readLimit text :=
    behind_append rfl
  have hoffset (text : List Char) : read (" OFFSET ".toList ++ text) = readOffset text :=
    behind_append rfl
  have hfetch (text : List Char) : read (" FETCH NEXT ".toList ++ text) = readFetch text :=
    behind_append rfl
  have hsort (text : List Char) : read (" ORDER BY (SELECT 0)".toList ++ text) =
      (pure .sortByConstant : Text.Reader PageClause) text := behind_append rfl
  have htop (text : List Char) : read ("TOP (".toList ++ text) = readTop text :=
    behind_append rfl
  cases clause <;> simp only [sql, String.toList_append, List.append_assoc]
  case top n => rw [htop, readTop_paren]
  case limit n => rw [hlimit, readLimit_toString n hrest.endsTerm.endsDigits]
  case unlimited => exact hlimit _
  case offset n => rw [hoffset, readOffset_toString n hrest]
  case sortByConstant => exact hsort rest
  case offsetRows n => rw [hoffset, readOffset_rows]
  case fetchNext n => rw [hfetch, readFetch_rows]

/-- A clause is no sort by columns. -/
theorem readSort_sql (dialect : Dialect) (clause : PageClause) (rest : List Char) :
    ResultClause.readSort dialect (clause.sql.toList ++ rest) = none := by
  cases clause with
  | sortByConstant => cases dialect <;> rfl
  | _ =>
    simp only [sql, String.toList_append, List.append_assoc]
    exact expect_bind_of_not_isPrefixOf rfl

end PageClause

end SqlDialects
