import SqlDialects.Query.Basic

/-! Calls and conditions by what they ask for. A predicate is a condition without its left side. -/

namespace SqlDialects

namespace Call

/-- A count of rows. Over several columns it is always the distinct tuples that count. -/
def count (columns : List String) (distinct : Bool) : Call :=
  ⟨.aggregate .count, columns, distinct || 1 < columns.length⟩

def ofAggregate (function : Aggregate) (column : String) (distinct : Bool) : Call :=
  ⟨.aggregate function, [column], distinct⟩

def ofScalar (function : ScalarFunction) (column : String) : Call :=
  ⟨.scalar function, [column], false⟩

/-- The present time, which takes no column. -/
def now : Call := ⟨.scalar .now, [], false⟩

end Call

/-- What is asked of an operand. -/
structure Predicate where
  comparison : Comparison
  comparand : Comparand

namespace Predicate

/-- A comparison with a bound value. -/
def withValue (comparison : Comparison) (value : Value) : Predicate := ⟨comparison, .value value⟩

def equalsColumn (column : String) : Predicate := ⟨.eq, .column column⟩

def differsFromColumn (column : String) : Predicate := ⟨.ne, .column column⟩

def between (low high : Value) : Predicate := ⟨.between, .range low high⟩

def notBetween (low high : Value) : Predicate := ⟨.notBetween, .range low high⟩

/-- A match of a text with a pattern. -/
def like (pattern : String) : Predicate := ⟨.like, .value (.string pattern)⟩

def notLike (pattern : String) : Predicate := ⟨.notLike, .value (.string pattern)⟩

/-- Membership in a list; the empty list has no members. -/
def isIn (values : List Value) : Predicate := ⟨.isIn, .list values⟩

def notIn (values : List Value) : Predicate := ⟨.notIn, .list values⟩

/-- Membership in the result of a query. -/
def inQuery (query : Query) : Predicate := ⟨.isIn, .subquery query⟩

def notInQuery (query : Query) : Predicate := ⟨.notIn, .subquery query⟩

def isNull : Predicate := ⟨.isNull, .nothing⟩

def isNotNull : Predicate := ⟨.isNotNull, .nothing⟩

end Predicate

namespace Operand

/-- An aggregate of one column. -/
def aggregate (function : Aggregate) (column : String) (distinct : Bool) : Operand :=
  .expression [.call (Call.ofAggregate function column distinct)]

/-- The condition that the predicate holds of the operand. -/
def test (operand : Operand) (predicate : Predicate) : ConditionNode :=
  .test ⟨operand, predicate.comparison, predicate.comparand⟩

end Operand

namespace Projection

/-- A column of the result that is a column of a table, under its own name. -/
def ofColumn (name : String) : Projection := { expression := [.column name] }

end Projection

end SqlDialects
