import SqlDialects.Config.Basic
import SqlDialects.Session.Basic

/-! Drivers. A program reaches its databases through one, and knows of it no more than this. -/

namespace SqlDialects

structure Driver (σ : Type) where
  /-- The state of a database once it is connected to, or why it cannot be. -/
  connect : Connection → Except Error σ
  database : Database σ

namespace Driver

/-- The result of a session over a new connection. -/
def run {σ α : Type} (driver : Driver σ) (connection : Connection) (session : Session α) :
    Except Error α := do
  let state ← driver.connect connection
  ((session.run driver.database).run.run state).1

end Driver

end SqlDialects
