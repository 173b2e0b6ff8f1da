import SqlDialects.Change.Build
import SqlDialects.Change.Render
import SqlDialects.Session.Basic

/-! Carrying out insertions, updates and deletions. -/

namespace SqlDialects

namespace Update

/-- The number of rows that the update changed. -/
def execute (dialect : Dialect) (update : Update) : Session UInt64 := do
  let compiled ← Session.ofExcept (update.compile dialect)
  return (← Session.executeOne compiled).rowsAffected

end Update

namespace Delete

/-- The number of rows that were deleted. -/
def execute (dialect : Dialect) (delete : Delete) : Session UInt64 := do
  let compiled ← Session.ofExcept (delete.compile dialect)
  return (← Session.executeOne compiled).rowsAffected

end Delete

namespace PendingRows

/-- The insertion of the rows into a table. -/
def compile (dialect : Dialect) (pending : PendingRows) (table : String) :
    Except Error Compiled := do
  (← pending.toInsert table).compile dialect

def execute (dialect : Dialect) (pending : PendingRows) (table : String) : Session Outcome := do
  Session.executeOne (← Session.ofExcept (pending.compile dialect table))

end PendingRows

end SqlDialects
