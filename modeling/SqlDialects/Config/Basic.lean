import SqlDialects.Dialect.Selection

/-! The configuration: which database to connect to, and what to log. -/

namespace SqlDialects

structure Config where
  /-- The url of the database. -/
  url : Option String := none
  /-- The dialect, where the url is not to settle it. -/
  dialect : Option Dialect := none
  maxConnections : UInt32 := 5
  /-- What is logged. -/
  filter : String := "info"
deriving DecidableEq, Repr

/-- What it takes to connect to a database. -/
structure Connection where
  url : String
  dialect : Dialect
  maxConnections : UInt32
deriving DecidableEq, Repr

namespace Config

/-- The connection that the configuration asks for. Statements for SQL Server are compiled only. -/
def connection (config : Config) : Except Error Connection := do
  match config.url with
  | none => throw (.config .noUrl)
  | some url =>
    let dialect ←
      match config.dialect with
      | some dialect => .ok dialect
      | none => Dialect.ofUrl url
    if dialect = .sqlServer then
      throw (.config .noDriver)
    return ⟨url, dialect, config.maxConnections⟩

end Config

end SqlDialects
