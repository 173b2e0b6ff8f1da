import SqlDialects.Query.Basic

/-! The names of the plain choices in a query, as statements in JSON and messages give them. -/

namespace SqlDialects

namespace Connective

def name : Connective → String
  | and => "And"
  | or => "Or"

def named : List (String × Connective) := [and, or].map fun c => (c.name, c)

end Connective

namespace Comparison

def name : Comparison → String
  | eq => "Eq"
  | ne => "Ne"
  | lt => "Lt"
  | gt => "Gt"
  | le => "Lte"
  | ge => "Gte"
  | like => "Like"
  | notLike => "NotLike"
  | between => "Between"
  | notBetween => "NotBetween"
  | isIn => "In"
  | notIn => "NotIn"
  | isNull => "IsNull"
  | isNotNull => "IsNotNull"

def named : List (String × Comparison) :=
  [eq, ne, lt, gt, le, ge, like, notLike, between, notBetween, isIn, notIn, isNull, isNotNull].map
    fun c => (c.name, c)

end Comparison

namespace Direction

def name : Direction → String
  | ascending => "Asc"
  | descending => "Desc"

def named : List (String × Direction) := [ascending, descending].map fun d => (d.name, d)

end Direction

namespace NullsPlacement

def name : NullsPlacement → String
  | first => "First"
  | last => "Last"

def named : List (String × NullsPlacement) := [first, last].map fun n => (n.name, n)

end NullsPlacement

namespace JoinKind

def name : JoinKind → String
  | inner => "Inner"
  | left => "Left"
  | right => "Right"
  | full => "Full"
  | cross => "Cross"

def named : List (String × JoinKind) :=
  [inner, left, right, full, cross].map fun k => (k.name, k)

end JoinKind

namespace Aggregate

def name : Aggregate → String
  | count => "Count"
  | sum => "Sum"
  | avg => "Avg"
  | min => "Min"
  | max => "Max"

def named : List (String × Aggregate) := [count, sum, avg, min, max].map fun a => (a.name, a)

end Aggregate

end SqlDialects
