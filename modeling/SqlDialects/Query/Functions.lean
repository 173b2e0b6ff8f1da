import SqlDialects.Error
import SqlDialects.Identifier
import SqlDialects.Sql

/-! Function calls in each dialect, over columns that are already quoted. -/

namespace SqlDialects

namespace ScalarFunction

/-- The part of a string from `start` on. -/
def midText (dialect : Dialect) (column : String) (start : Int64) (count : Option Int64) : String :=
  let start := toString start.toInt
  match dialect, count.map fun n => toString n.toInt with
  | .mysql, some count => "MID(" ++ column ++ ", " ++ start ++ ", " ++ count ++ ")"
  | .mysql, none => "MID(" ++ column ++ ", " ++ start ++ ")"
  | .postgres, some count =>
    "SUBSTRING(" ++ column ++ " FROM " ++ start ++ " FOR " ++ count ++ ")"
  | .postgres, none => "SUBSTRING(" ++ column ++ " FROM " ++ start ++ ")"
  | .sqlite, some count => "SUBSTR(" ++ column ++ ", " ++ start ++ ", " ++ count ++ ")"
  | .sqlite, none => "SUBSTR(" ++ column ++ ", " ++ start ++ ")"
  | .sqlServer, some count => "SUBSTRING(" ++ column ++ ", " ++ start ++ ", " ++ count ++ ")"
  | .sqlServer, none =>
    "SUBSTRING(" ++ column ++ ", " ++ start ++ ", LEN(" ++ column ++ "))"

/-- A call of the function with one column. -/
def render (dialect : Dialect) (function : ScalarFunction) (column : String) : Sql :=
  match function with
  | upper =>
    match dialect with
    | .mysql => .text ("UCASE(" ++ column ++ ")")
    | _ => .text ("UPPER(" ++ column ++ ")")
  | lower =>
    match dialect with
    | .mysql => .text ("LCASE(" ++ column ++ ")")
    | _ => .text ("LOWER(" ++ column ++ ")")
  | mid start count => .text (midText dialect column start count)
  | length =>
    match dialect with
    | .sqlServer => .text ("LEN(" ++ column ++ ")")
    | _ => .text ("LENGTH(" ++ column ++ ")")
  | round decimals =>
    match dialect with
    | .postgres =>
      .text ("ROUND(CAST(" ++ column ++ " AS NUMERIC), " ++ toString decimals.toNat ++ ")")
    | _ => .text ("ROUND(" ++ column ++ ", " ++ toString decimals.toNat ++ ")")
  | format pattern =>
    match dialect with
    | .postgres => [.text ("to_char(" ++ column ++ ", "), .bind (.string pattern), .text ")"]
    | .sqlite => [.text "printf(", .bind (.string pattern), .text (", " ++ column ++ ")")]
    | _ => [.text ("FORMAT(" ++ column ++ ", "), .bind (.string pattern), .text ")"]
  | now =>
    match dialect with
    | .sqlite => .text "datetime('now')"
    | .sqlServer => .text "GETDATE()"
    | _ => .text "NOW()"

end ScalarFunction

namespace Aggregate

/-- A call with its arguments; without arguments it is over all rows. -/
def callText (function : Aggregate) (distinct : Bool) (arguments : String) : String :=
  function.sql ++ (if distinct then "(DISTINCT " else "(") ++ arguments ++ ")"

/-- A call over several columns. Of the distinct ones, each dialect has its own idea. -/
def render (dialect : Dialect) (function : Aggregate) (distinct : Bool) (columns : List String) :
    Except Error String :=
  let arguments := if columns.isEmpty then "*" else Text.join ", " columns
  if distinct && 1 < columns.length then
    match dialect with
    | .mysql => .ok (callText function true arguments)
    | .postgres => .ok (callText function true ("(" ++ arguments ++ ")"))
    | .sqlite => .error (.unsupported .sqlite .distinctTuple)
    | .sqlServer => .error (.unsupported .sqlServer .distinctTuple)
  else
    .ok (callText function distinct arguments)

end Aggregate

namespace Call

/-- A call. Scalar functions take the first of the columns, and only `now` needs none. -/
def render (dialect : Dialect) (call : Call) : Except Error Sql :=
  match call.function with
  | .aggregate function => do
    let columns := call.columns.map (Identifier.quote dialect)
    return .text (← function.render dialect call.distinct columns)
  | .scalar .now => .ok (ScalarFunction.now.render dialect "")
  | .scalar function =>
    match call.columns with
    | [] => .error (.invalid (.functionWithoutColumn function))
    | column :: _ => .ok (function.render dialect (Identifier.quote dialect column))

end Call

end SqlDialects
