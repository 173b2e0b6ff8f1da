import SqlDialects.Query.Predicate
import SqlDialects.Query.Render
import SqlDialects.Session.Basic

/-! What a query is asked for: its rows, one of its columns, or an aggregate. -/

namespace SqlDialects

/-- The first cell of the first row, unless it is null. -/
def scalar? (rows : List Row) : Option Json :=
  match rows.head?.bind Row.first? with
  | some .null => none
  | cell => cell

/-- A decimal integer with or without a sign, within 64 bits. -/
def readInt64? (s : String) : Option Int64 :=
  let (negative, digits) :=
    match s.toList with
    | '-' :: rest => (true, rest)
    | '+' :: rest => (false, rest)
    | text => (false, text)
  if digits.isEmpty ∨ digits.any (fun c => !c.isDigit) then none
  else
    let n : Int := Text.decimalValue digits
    let n := if negative then -n else n
    if Int64.minValue.toInt ≤ n ∧ n ≤ Int64.maxValue.toInt then some (Int64.ofInt n) else none

/-- The count that a cell stands for. Databases give counts as integers or as their texts, and no
row where nothing is grouped. -/
def countOfCell : Option Json → Except Error Int64
  | none => .ok 0
  | some .null => .ok 0
  | some (.int n) =>
    if Int64.minValue.toInt ≤ n ∧ n ≤ Int64.maxValue.toInt then .ok (Int64.ofInt n)
    else .error (.invalid (.badCount (.int n)))
  | some (.string s) =>
    match readInt64? s with
    | some n => .ok n
    | none => .error (.invalid (.badCount (.string s)))
  | some cell => .error (.invalid (.badCount cell))

namespace Query

/-- The name of the column of an aggregate. -/
def aggregateAlias : String := "aggregate"

/-- The query for an aggregate over the rows of this one. -/
def aggregateOf (query : Query) (call : Call) : Query :=
  { query with columns := [⟨[.call call], some aggregateAlias⟩] }

/-- The query for a single column. -/
def columnOf (query : Query) (name : String) : Query :=
  { query with columns := [Projection.ofColumn name] }

/-- All rows. -/
def fetchRows (dialect : Dialect) (query : Query) : Session (List Row) := do
  let compiled ← Session.ofExcept (query.compile dialect)
  Session.fetchRows compiled

def fetchScalar (dialect : Dialect) (query : Query) : Session (Option Json) := do
  return scalar? (← query.fetchRows dialect)

/-- The first value of a column. -/
def fetchColumn (dialect : Dialect) (query : Query) (name : String) : Session (Option Json) :=
  (query.columnOf name).fetchScalar dialect

/-- An aggregate of one column. -/
def fetchAggregate (dialect : Dialect) (query : Query) (function : Aggregate) (column : String)
    (distinct : Bool) : Session (Option Json) :=
  (query.aggregateOf (Call.ofAggregate function column distinct)).fetchScalar dialect

/-- The number of rows, by some of their columns. -/
def fetchCount (dialect : Dialect) (query : Query) (columns : List String) (distinct : Bool) :
    Session Int64 := do
  let cell ← (query.aggregateOf (Call.count columns distinct)).fetchScalar dialect
  Session.ofExcept (countOfCell cell)

end Query

end SqlDialects
