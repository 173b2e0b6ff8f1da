/-! The four dialects and what they are called. -/

namespace SqlDialects

inductive Dialect where
  | mysql
  | postgres
  | sqlite
  | sqlServer
deriving DecidableEq, Repr

namespace Dialect

/-- Every dialect, in the order in which they are listed. -/
def all : List Dialect := [.mysql, .postgres, .sqlite, .sqlServer]

theorem mem_all (d : Dialect) : d ∈ all := by cases d <;> decide

/-- The name in messages and listings. -/
def name : Dialect → String
  | .mysql => "MySQL"
  | .postgres => "PostgreSQL"
  | .sqlite => "SQLite"
  | .sqlServer => "SQL Server"

/-- The name in a configuration, where no other spelling is accepted. -/
def configName : Dialect → String
  | .mysql => "mysql"
  | .postgres => "postgres"
  | .sqlite => "sqlite"
  | .sqlServer => "sqlserver"

def ofConfigName? (s : String) : Option Dialect := all.find? fun d => d.configName == s

/-- The dialect that an alias in lower case stands for. -/
def ofAlias? : String → Option Dialect
  | "postgres" => some .postgres
  | "postgresql" => some .postgres
  | "pg" => some .postgres
  | "mysql" => some .mysql
  | "mariadb" => some .mysql
  | "sqlite" => some .sqlite
  | "sqlserver" => some .sqlServer
  | "mssql" => some .sqlServer
  | _ => none

/-- The placeholder of the parameter with this number; numbers start at one. -/
def placeholder : Dialect → Nat → String
  | .mysql, _ => "?"
  | .postgres, n => "$" ++ toString n
  | .sqlite, _ => "?"
  | .sqlServer, n => "@p" ++ toString n

def boolLiteral : Dialect → Bool → String
  | .postgres, true => "TRUE"
  | .postgres, false => "FALSE"
  | _, true => "1"
  | _, false => "0"

end Dialect

end SqlDialects
