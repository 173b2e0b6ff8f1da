import SqlDialects.Error
import SqlDialects.Row
import SqlDialects.Sql

/-! Conversations with a database. A session says which statement it sends next and how it goes on
with the answer; it can be run against any database, and ends at the first error. -/

namespace SqlDialects

/-- What a statement without result rows did. -/
structure Outcome where
  rowsAffected : UInt64
  lastInsertId : Option Int64
deriving DecidableEq, Repr

inductive Session (α : Type) where
  | done (result : Except Error α)
  /-- Sends a query and goes on with its rows. -/
  | fetch (query : Compiled) (next : List Row → Session α)
  /-- Sends a statement and goes on with what it did. -/
  | execute (statement : Compiled) (next : Outcome → Session α)

/-- A database with states `σ`, which may reject a statement. -/
structure Database (σ : Type) where
  fetch : Compiled → ExceptT Error (StateM σ) (List Row)
  execute : Compiled → ExceptT Error (StateM σ) Outcome

namespace Session

def bind {α β : Type} : Session α → (α → Session β) → Session β
  | .done (.ok a), next => next a
  | .done (.error error), _ => .done (.error error)
  | .fetch query rest, next => .fetch query fun rows => (rest rows).bind next
  | .execute statement rest, next =>
    .execute statement fun outcome => (rest outcome).bind next

instance : Monad Session where
  pure a := .done (.ok a)
  bind := bind

/-- The session that sends nothing. -/
def ofExcept {α : Type} (result : Except Error α) : Session α := .done result

def fetchRows (query : Compiled) : Session (List Row) := .fetch query fun rows => .done (.ok rows)

def executeOne (statement : Compiled) : Session Outcome :=
  .execute statement fun outcome => .done (.ok outcome)

/-- Sends statements in order. -/
def executeAll : List Compiled → Session Unit
  | [] => .done (.ok ())
  | statement :: rest => .execute statement fun _ => executeAll rest

/-- The result of a session with a database. The first statement that is rejected ends it. -/
def run {σ α : Type} (database : Database σ) : Session α → ExceptT Error (StateM σ) α
  | .done result => ExceptT.mk (Pure.pure result)
  | .fetch query next => database.fetch query >>= fun rows => run database (next rows)
  | .execute statement next =>
    database.execute statement >>= fun outcome => run database (next outcome)

end Session

end SqlDialects
