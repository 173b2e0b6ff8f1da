import SqlDialects.Session.Basic
import SqlDialects.Text.Separated

/-! A database for rehearsals: it answers queries from a prepared list and keeps what it was
sent. -/

namespace SqlDialects

structure Rehearsal where
  /-- The rows for the queries to come; those after them get no rows. -/
  responses : List (List Row) := []
  /-- A text that makes a statement be rejected. -/
  rejected : Option String := none
  /-- The statements that were accepted, in order. -/
  sent : List Compiled := []

namespace Rehearsal

/-- Whether the statement has the rejected text in it. -/
def rejects (state : Rehearsal) (statement : Compiled) : Bool :=
  state.rejected.any fun text => Text.occurs text.toList statement.sql.toList

/-- A rejected statement leaves no trace. -/
def accept (statement : Compiled) : ExceptT Error (StateM Rehearsal) Unit := do
  let state ← get
  if state.rejects statement then
    throw (.invalid .rejectedStatement)
  set { state with sent := state.sent ++ [statement] }

def fetch (query : Compiled) : ExceptT Error (StateM Rehearsal) (List Row) := do
  accept query
  let state ← get
  match state.responses with
  | [] => return []
  | rows :: rest =>
    set { state with responses := rest }
    return rows

/-- Every statement affects one row. -/
def execute (statement : Compiled) : ExceptT Error (StateM Rehearsal) Outcome := do
  accept statement
  return ⟨1, some 7⟩

def database : Database Rehearsal := ⟨fetch, execute⟩

/-- The result of a session, and the statements that were accepted during it. -/
def rehearse {α : Type} (state : Rehearsal) (session : Session α) :
    Except Error α × List Compiled × Rehearsal :=
  let (result, after) := (session.run database).run { state with sent := [] }
  (result, after.sent, after)

end Rehearsal

end SqlDialects
