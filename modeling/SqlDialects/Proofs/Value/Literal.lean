import SqlDialects.Proofs.Table.Defaults
import SqlDialects.Proofs.Value.TimestampText
import SqlDialects.Table.Alter

/-! What literals tell of their values. Integers, strings and bytes can be told from their literals;
of a timestamp all can be told but the fraction of its second. A default stands in a statement as
its literal, so the statement tells as much of it. -/

namespace SqlDialects

namespace Text

theorem toDigits_inj {m n : Nat} (h : Nat.toDigits 10 m = Nat.toDigits 10 n) : m = n := by
  have hvalue := congrArg decimalValue h
  rwa [decimalValue_toDigits, decimalValue_toDigits] at hvalue

theorem toDigits_ne_minus (m : Nat) (rest : List Char) : Nat.toDigits 10 m ≠ '-' :: rest := by
  intro h
  cases isDigit_of_mem_toDigits (h ▸ List.mem_cons_self : '-' ∈ Nat.toDigits 10 m)

theorem toString_int_inj {m n : Int} (h : toString m = toString n) : m = n := by
  have htext := congrArg String.toList h
  cases m with
  | ofNat a =>
    cases n with
    | ofNat b =>
      rw [toList_toString_ofNat, toList_toString_ofNat] at htext
      rw [toDigits_inj htext]
    | negSucc b =>
      rw [toList_toString_ofNat, toList_toString_negSucc] at htext
      exact absurd htext (toDigits_ne_minus a _)
  | negSucc a =>
    cases n with
    | ofNat b =>
      rw [toList_toString_ofNat, toList_toString_negSucc] at htext
      exact absurd htext.symm (toDigits_ne_minus b _)
    | negSucc b =>
      rw [toList_toString_negSucc, toList_toString_negSucc] at htext
      rw [Nat.succ.inj (toDigits_inj (List.cons.inj htext).2)]

theorem double_inj {c : Char} {first second : List Char}
    (h : double c first = double c second) : first = second := by
  induction first generalizing second with
  | nil =>
    cases second with
    | nil => rfl
    | cons e more => simp only [double] at h; split at h <;> cases h
  | cons d rest ih =>
    cases second with
    | nil => simp only [double] at h; split at h <;> cases h
    | cons e more =>
      -- Both texts start with their own first character, whether or not it is written twice.
      have hhead : d = e := by
        simp only [double] at h
        split at h <;> split at h <;> exact (List.cons.inj h).1
      subst hhead
      simp only [double] at h
      split at h
      · rw [ih (List.cons.inj (List.cons.inj h).2).2]
      · rw [ih (List.cons.inj h).2]

theorem hexDigit?_hexDigit (n : Nat) : hexDigit? (hexDigit n) = some (n % 16) := by
  have hall : ∀ m < 16, hexDigit? ("0123456789ABCDEF".toList.getD m '0') = some m := by decide
  exact hall (n % 16) (Nat.mod_lt n (by decide))

theorem hexDigit_inj {m n : Nat} (h : hexDigit m = hexDigit n) : m % 16 = n % 16 := by
  have hread : hexDigit? (hexDigit m) = hexDigit? (hexDigit n) := congrArg hexDigit? h
  rw [hexDigit?_hexDigit, hexDigit?_hexDigit] at hread
  exact Option.some.inj hread

theorem hexPair_inj {first second : UInt8} (h : hexPair first = hexPair second) :
    first = second := by
  have hhigh := hexDigit_inj (List.cons.inj h).1
  have hlow := hexDigit_inj (List.cons.inj (List.cons.inj h).2).1
  have hfirst := first.toNat_lt
  have hsecond := second.toNat_lt
  exact UInt8.toNat_inj.1 (by omega)

theorem flatMap_hexPair_inj {first second : List UInt8}
    (h : first.flatMap hexPair = second.flatMap hexPair) : first = second := by
  induction first generalizing second with
  | nil =>
    cases second with
    | nil => rfl
    | cons byte rest => cases h
  | cons byte rest ih =>
    cases second with
    | nil => cases h
    | cons other more =>
      rw [List.flatMap_cons, List.flatMap_cons] at h
      obtain ⟨hpair, hrest⟩ := List.append_inj h rfl
      rw [hexPair_inj hpair, ih hrest]

end Text

theorem quoteString_inj {first second : String} (h : quoteString first = quoteString second) :
    first = second := by
  have hdoubled := List.append_cancel_right (List.cons.inj (String.ofList_injective h)).2
  exact String.toList_injective (Text.double_inj hdoubled)

namespace Timestamp

open Text

/-- The timestamp at the start of its second. -/
def wholeSeconds (t : Timestamp) : Timestamp :=
  { t with
    nanosecond := 0
    time_bounds := ⟨t.time_bounds.1, t.time_bounds.2.1, t.time_bounds.2.2.1, by decide⟩ }

theorem isoText_wholeSeconds (t : Timestamp) :
    t.wholeSeconds.isoText = dateText t ++ 'T' :: clockText t :=
  List.append_nil _

theorem blank_notMem_paddedDecimal (width n : Nat) : ' ' ∉ paddedDecimal width n := fun h => by
  cases isDigit_of_mem_paddedDecimal h

theorem blank_notMem_dateText (t : Timestamp) : ' ' ∉ dateText t := by
  have hyear : ' ' ∉ yearText t.year := by
    unfold yearText
    split
    · exact blank_notMem_paddedDecimal 4 _
    · rw [List.mem_cons]
      rintro (h | h)
      · split at h <;> cases h
      · exact blank_notMem_paddedDecimal 4 _ h
  simp [dateText, hyear, blank_notMem_paddedDecimal]

theorem blank_notMem_clockText (t : Timestamp) : ' ' ∉ clockText t := by
  simp [clockText, blank_notMem_paddedDecimal]

/-- The text without a fraction tells all but the fraction. -/
theorem sqlText_eq_iff {t u : Timestamp} :
    t.sqlText = u.sqlText ↔ t.wholeSeconds = u.wholeSeconds := by
  constructor
  · intro h
    obtain ⟨hdate, -, hclock⟩ := (List.append_cons_inj_of_notMem (blank_notMem_dateText u)
      (blank_notMem_clockText u)).1 h.symm
    have htext : t.wholeSeconds.isoText = u.wholeSeconds.isoText := by
      rw [isoText_wholeSeconds, isoText_wholeSeconds, hdate, hclock]
    have hread := congrArg ofText? htext
    rw [ofText?_isoText, ofText?_isoText] at hread
    exact Option.some.inj hread
  · intro h
    calc t.sqlText = t.wholeSeconds.sqlText := rfl
      _ = u.wholeSeconds.sqlText := by rw [h]
      _ = u.sqlText := rfl

end Timestamp

namespace Value

/-- Two integers, two strings, two runs of bytes or two timestamps. -/
inductive SameKind : Value → Value → Prop
  | int (m n : Int64) : SameKind (.int m) (.int n)
  | string (s t : String) : SameKind (.string s) (.string t)
  | bytes (b c : List UInt8) : SameKind (.bytes b) (.bytes c)
  | timestamp (t u : Timestamp) : SameKind (.timestamp t) (.timestamp u)

/-- The value, with a timestamp at the start of its second. -/
def wholeSeconds : Value → Value
  | .timestamp t => .timestamp t.wholeSeconds
  | value => value

theorem literal_eq_iff {dialect : Dialect} {v w : Value} (h : v.SameKind w) :
    v.literal dialect = w.literal dialect ↔ v.wholeSeconds = w.wholeSeconds := by
  cases h with
  | int m n =>
    constructor
    · intro h
      rw [Int64.toInt_inj.1 (Text.toString_int_inj h)]
    · intro h
      rw [int.inj h]
  | string s t =>
    constructor
    · intro h
      rw [quoteString_inj h]
    · intro h
      rw [string.inj h]
  | bytes b c =>
    constructor
    · intro h
      have hdigits := (List.cons.inj (List.cons.inj (String.ofList_injective h)).2).2
      rw [Text.flatMap_hexPair_inj (List.append_cancel_right hdigits)]
    · intro h
      rw [bytes.inj h]
  | timestamp t u =>
    constructor
    · intro h
      have htext : t.sqlText = u.sqlText := String.ofList_injective (quoteString_inj h)
      exact congrArg timestamp (Timestamp.sqlText_eq_iff.1 htext)
    · intro h
      have htext : t.sqlText = u.sqlText := Timestamp.sqlText_eq_iff.2 (timestamp.inj h)
      rw [literal, literal, htext]

end Value

/-- The column with a default. -/
def Column.withDefault (column : Column) (value : Value) : Column :=
  { column with options := { column.options with default := some value } }

/-- The table with a column somewhere among the others. -/
def CreateTable.withColumn (table : CreateTable) (before after : List Column) (column : Column) :
    CreateTable :=
  { table with columns := before ++ column :: after }

namespace AlterOperation

/-- The operation with a default for its column. -/
def withDefault (operation : AlterOperation) (value : Value) : AlterOperation :=
  match operation with
  | setDefault column _ => setDefault column value
  | operation => operation.mapColumn fun column => column.withDefault value

/-- Whether the default of its column is written for the operation. PostgreSQL makes a column
auto-incrementing without it. -/
def writesDefault (dialect : Dialect) : AlterOperation → Bool
  | addColumn _ | addAutoincrement _ _ | modifyColumn _ | setDefault _ _ => true
  | autoincrement _ _ => dialect != .postgres
  | _ => false

theorem exists_declaredDefault? {dialect : Dialect} {operation : AlterOperation}
    (h : operation.writesDefault dialect) (table : String) :
    ∃ column constraint, ∀ value, (operation.withDefault value).declaredDefault? dialect table =
      some ⟨table, column, constraint, value⟩ := by
  cases operation with
  | addColumn column | addAutoincrement column key => exact ⟨column.name, none, fun _ => rfl⟩
  | modifyColumn column =>
    exact ⟨column.name, changedConstraint? dialect table column.name, fun _ => rfl⟩
  | setDefault column =>
    exact ⟨column, changedConstraint? dialect table column, fun _ => rfl⟩
  | autoincrement column key =>
    have hdialect : dialect ≠ .postgres := bne_iff_ne.mp h
    exact ⟨column.name, none, fun value => if_neg hdialect⟩
  | _ => cases h

end AlterOperation

namespace TableStatement

/-- If a default can be exchanged for another without a change to the texts, then its literal is the
same. -/
theorem literal_eq_of_compile {dialect : Dialect} {s t : TableStatement}
    {statements : List Compiled} (htypes : s.types = t.types)
    (hs : s.compile dialect = .ok statements) (ht : t.compile dialect = .ok statements)
    {before after : List ColumnDefault} {table column : String} {constraint : Option String}
    {v w : Value}
    (hv : s.declaredDefaults dialect = before ++ ⟨table, column, constraint, v⟩ :: after)
    (hw : t.declaredDefaults dialect = before ++ ⟨table, column, constraint, w⟩ :: after) :
    v.literal dialect = w.literal dialect := by
  have hwritten := map_written_eq_of_compile htypes hs ht
  rw [hv, hw, List.map_append, List.map_append, List.map_cons, List.map_cons,
    List.append_cancel_left_eq] at hwritten
  have hvalue : v.written dialect = w.written dialect :=
    congrArg WrittenDefault.value (List.cons.inj hwritten).1
  have htext := congrArg Literal.toText hvalue
  rw [v.toText_written, w.toText_written] at htext
  exact String.toList_injective htext

variable {dialect : Dialect} {v w : Value} {statements : List Compiled}

theorem literal_eq_of_create {table : CreateTable} {before after : List Column} {column : Column}
    (hv : (table.withColumn before after (column.withDefault v)).compile dialect = .ok statements)
    (hw : (table.withColumn before after (column.withDefault w)).compile dialect =
      .ok statements) : v.literal dialect = w.literal dialect := by
  have hdeclared (value : Value) :
      (create (table.withColumn before after (column.withDefault value))).declaredDefaults dialect =
        before.filterMap (Column.default? table.name none) ++
          ⟨table.name, column.name, none, value⟩ ::
            after.filterMap (Column.default? table.name none) := by
    exact List.filterMap_append
  exact literal_eq_of_compile (s := create (table.withColumn before after (column.withDefault v)))
    (t := create (table.withColumn before after (column.withDefault w))) rfl hv hw (hdeclared v)
    (hdeclared w)

theorem literal_eq_of_alter {table : String} {before after : List AlterOperation}
    {operation : AlterOperation} (h : operation.writesDefault dialect) {types : ColumnTypes}
    (hv : AlterTable.compile dialect ⟨table, before ++ operation.withDefault v :: after⟩ types =
      .ok statements)
    (hw : AlterTable.compile dialect ⟨table, before ++ operation.withDefault w :: after⟩ types =
      .ok statements) : v.literal dialect = w.literal dialect := by
  obtain ⟨column, constraint, hdefault⟩ := operation.exists_declaredDefault? h table
  have hdeclared (value : Value) :
      (alter ⟨table, before ++ operation.withDefault value :: after⟩ types).declaredDefaults
        dialect = before.filterMap (AlterOperation.declaredDefault? dialect table) ++
          ⟨table, column, constraint, value⟩ ::
            after.filterMap (AlterOperation.declaredDefault? dialect table) := by
    rw [declaredDefaults, List.filterMap_append, List.filterMap_cons_some (hdefault value)]
  exact literal_eq_of_compile
    (s := alter ⟨table, before ++ operation.withDefault v :: after⟩ types)
    (t := alter ⟨table, before ++ operation.withDefault w :: after⟩ types) rfl hv hw (hdeclared v)
    (hdeclared w)

end TableStatement

namespace Value

/-- Two values of one kind have the same literal exactly if they are the same up to the fraction of
a second. New tables and changes that compile to the same statements have such values as the
defaults of their columns. -/
theorem literals_tell_whole_seconds {v w : Value} (h : v.SameKind w) (dialect : Dialect) :
    (v.literal dialect = w.literal dialect ↔ v.wholeSeconds = w.wholeSeconds) ∧
      (∀ (table : CreateTable) (before after : List Column) (column : Column)
        (statements : List Compiled),
        (table.withColumn before after (column.withDefault v)).compile dialect = .ok statements →
        (table.withColumn before after (column.withDefault w)).compile dialect = .ok statements →
        v.wholeSeconds = w.wholeSeconds) ∧
      ∀ (table : String) (before after : List AlterOperation) (operation : AlterOperation)
        (types : ColumnTypes) (statements : List Compiled), operation.writesDefault dialect →
        AlterTable.compile dialect ⟨table, before ++ operation.withDefault v :: after⟩ types =
          .ok statements →
        AlterTable.compile dialect ⟨table, before ++ operation.withDefault w :: after⟩ types =
          .ok statements →
        v.wholeSeconds = w.wholeSeconds := by
  have hliteral : v.literal dialect = w.literal dialect ↔ v.wholeSeconds = w.wholeSeconds :=
    literal_eq_iff h
  refine ⟨hliteral, ?_, ?_⟩
  · intro table before after column statements hv hw
    exact hliteral.1 (TableStatement.literal_eq_of_create hv hw)
  · intro table before after operation types statements hwrites hv hw
    exact hliteral.1 (TableStatement.literal_eq_of_alter hwrites hv hw)

/-- A leap second is not the second before it. -/
theorem literals_tell_whole_seconds_of_leap :
    let last : Timestamp :=
      ⟨2016, 12, 31, 23, 59, 59, 0, by decide, by decide, by decide, by decide⟩
    let leap : Timestamp :=
      ⟨2016, 12, 31, 23, 59, 60, 0, by decide, by decide, by decide, by decide⟩
    SameKind (timestamp last) (timestamp leap) ∧
      (timestamp last).literal .postgres ≠ (timestamp leap).literal .postgres := by
  intro last leap
  refine ⟨.timestamp last leap, fun h => ?_⟩
  have hsame := (literals_tell_whole_seconds (.timestamp last leap) .postgres).1.1 h
  exact absurd (timestamp.inj hsame) (by decide)

/-- Half a second more is another timestamp with the same literal. -/
theorem fraction_not_in_literal :
    let start : Timestamp := ⟨2024, 1, 2, 3, 4, 5, 0, by decide, by decide, by decide, by decide⟩
    let later : Timestamp :=
      ⟨2024, 1, 2, 3, 4, 5, 500000000, by decide, by decide, by decide, by decide⟩
    Timestamp.ofText? "2024-01-02T03:04:05".toList = some start ∧
      Timestamp.ofText? "2024-01-02T03:04:05.5".toList = some later ∧ start ≠ later ∧
      (timestamp start).literal .mysql = "'2024-01-02 03:04:05'" ∧
      (timestamp later).literal .mysql = "'2024-01-02 03:04:05'" := by
  decide

end Value

end SqlDialects
