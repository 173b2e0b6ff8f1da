import SqlDialects.Dialect

/-! Limits and offsets. Each dialect says them in clauses of its own: `LIMIT` and `OFFSET` at the
end of the query, or `TOP` at its head and `OFFSET … FETCH` after the sort. -/

namespace SqlDialects

/-- The clauses by which dialects restrict the rows of a result. -/
inductive PageClause where
  /-- At the head of the query: the first `count` rows. -/
  | top (count : Nat)
  | limit (count : Nat)
  /-- A limit that lets every row pass. -/
  | unlimited
  | offset (count : Nat)
  /-- A sort by a constant, where an offset needs some sort before it. -/
  | sortByConstant
  | offsetRows (count : Nat)
  | fetchNext (count : Nat)
deriving DecidableEq, Repr

namespace PageClause

def sql : PageClause → String
  | top n => "TOP (" ++ toString n ++ ") "
  | limit n => " LIMIT " ++ toString n
  | unlimited => " LIMIT -1"
  | offset n => " OFFSET " ++ toString n
  | sortByConstant => " ORDER BY (SELECT 0)"
  | offsetRows n => " OFFSET " ++ toString n ++ " ROWS"
  | fetchNext n => " FETCH NEXT " ++ toString n ++ " ROWS ONLY"

end PageClause

namespace Pagination

/-- The clauses between `SELECT` and the columns. -/
def head : Dialect → Option UInt64 → Option UInt64 → List PageClause
  | .sqlServer, some limit, none => [.top limit.toNat]
  | _, _, _ => []

/-- The offset clause of the dialects that have one without a sort. -/
def plainOffset : Option UInt64 → List PageClause
  | none => []
  | some n => [.offset n.toNat]

/-- The limit clause of a dialect that needs a limit before an offset; `all` is its clause for all
rows. -/
def limitOr (all : PageClause) : Option UInt64 → Option UInt64 → List PageClause
  | some n, _ => [.limit n.toNat]
  | none, some _ => [all]
  | none, none => []

/-- The clauses at the end of the query; `ordered` says whether it has a sort. -/
def tail (dialect : Dialect) (limit offset : Option UInt64) (ordered : Bool) : List PageClause :=
  match dialect with
  | .mysql => limitOr (.limit (UInt64.size - 1)) limit offset ++ plainOffset offset
  | .sqlite => limitOr .unlimited limit offset ++ plainOffset offset
  | .postgres => limitOr .unlimited limit none ++ plainOffset offset
  | .sqlServer =>
    match offset with
    | none => []
    | some n =>
      (if ordered then [] else [.sortByConstant]) ++ .offsetRows n.toNat ::
        (match limit with
        | none => []
        | some n => [.fetchNext n.toNat])

def text (clauses : List PageClause) : String := String.join (clauses.map PageClause.sql)

/-- The text between `SELECT` and the columns. -/
def headText (dialect : Dialect) (limit offset : Option UInt64) : String :=
  text (head dialect limit offset)

/-- The text at the end of the query. -/
def tailText (dialect : Dialect) (limit offset : Option UInt64) (ordered : Bool) : String :=
  text (tail dialect limit offset ordered)

end Pagination

end SqlDialects
