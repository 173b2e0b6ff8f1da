import SqlDialects.CommandLine.Listing
import SqlDialects.Config.Reader
import SqlDialects.Session.Driver
import SqlDialects.Statement.Compile
import SqlDialects.Statement.Json

/-! What the program does for an invocation. All that it sees of the world is given to it, and all
that it does is a report. -/

namespace SqlDialects

/-- What the program sees of the world. -/
structure Surroundings (σ : Type) where
  /-- The text of a file, or the reason why it cannot be read. -/
  read : String → Except String String
  /-- The configuration files that are there, the most specific one first. -/
  configFiles : List String
  /-- The url that the environment gives. -/
  url : Option String
  /-- The standard input. -/
  input : String
  /-- How databases are reached. -/
  driver : Driver σ

/-- What the program writes, and the status that it ends with. -/
structure Report where
  status : Nat
  output : String
  errors : String
deriving DecidableEq, Repr

/-- Why an invocation comes to nothing. -/
inductive Failure where
  | unreadableConfig (path reason : String)
  | malformedConfig
  | unreadableInput (path reason : String)
  | malformedStatement
  | noUrl
  | rejected (error : Error)

namespace Failure

def message : Failure → String
  | unreadableConfig path reason =>
    "failed to load configuration: " ++ (Error.config (.unreadableFile path reason)).message
  | malformedConfig => "failed to load configuration: TOML error"
  | unreadableInput path reason => "failed to read " ++ path ++ ": " ++ reason
  | malformedStatement => "invalid statement JSON"
  | noUrl =>
    "no database URL; use --database-url, set QAIL_SQL_DATABASE_URL or add [database] url " ++
      "to the config"
  | rejected error => error.message

end Failure

namespace Report

/-- The report of a success. -/
def ofOutput (output : String) : Report := ⟨0, output, ""⟩

/-- The report of a failure after some output. -/
def ofFailure (output : String) (failure : Failure) : Report :=
  ⟨1, output, "Error: " ++ failure.message ++ "\n"⟩

/-- The report on arguments that make no sense. -/
def misuse : Report := ⟨2, "", "error: the arguments make no sense\n"⟩

end Report

namespace Surroundings

variable {σ : Type}

/-- The configuration of the file that was asked for or else of the first that is there. A url from
the environment goes before that of the file unless it is empty. -/
def loadConfig (world : Surroundings σ) (path : Option String) : Except Failure Config := do
  let config ←
    match path <|> world.configFiles.head? with
    | none => pure {}
    | some path =>
      match world.read path with
      | .error reason => throw (.unreadableConfig path reason)
      | .ok text =>
        match Config.ofText? text with
        | none => throw .malformedConfig
        | some config => pure config
  match world.url with
  | none => return config
  | some "" => return config
  | some url => return { config with url := some url }

/-- The configuration of an invocation. Its option for the url goes before all else; without the
option the environment stands in for it. -/
def configOf (world : Surroundings σ) (invocation : Invocation) : Except Failure Config := do
  let config ← world.loadConfig invocation.configPath
  match invocation.databaseUrl <|> world.url with
  | none => return config
  | some url => return { config with url := some url }

/-- The text of a file, or of the standard input for a dash. -/
def readInput (world : Surroundings σ) (path : String) : Except Failure String :=
  if path = "-" then .ok world.input
  else
    match world.read path with
    | .ok text => .ok text
    | .error reason => .error (.unreadableInput path reason)

/-- The compiled statements of a JSON text. -/
def compileInput (world : Surroundings σ) (path : String) (dialect : Dialect) :
    Except Failure (List Compiled) := do
  let text ← world.readInput path
  match Statement.ofText? text with
  | none => throw .malformedStatement
  | some statement =>
    match statement.compile dialect with
    | .ok compiled => return compiled
    | .error error => throw (.rejected error)

end Surroundings

namespace Report

variable {σ : Type}

def compile (world : Surroundings σ) (path : String) (dialect : Dialect) (format : OutputFormat) :
    Report :=
  match world.compileInput path dialect with
  | .error failure => ofFailure "" failure
  | .ok compiled =>
    match format with
    | .text => ofOutput (Listing.statements dialect compiled)
    | .json => ofOutput (Listing.statementsJson compiled)

/-- The report of a command that asks a database. -/
def connect (driver : Driver σ) (inspection : Inspection) (config : Config) (verbose : Bool) :
    Report :=
  match config.url with
  | none => ofFailure "" .noUrl
  | some url =>
    let output := if verbose then "Connecting to: " ++ url ++ "\n" else ""
    let answer := config.connection >>= fun connection =>
      driver.run connection (inspection.session connection.dialect)
    match answer with
    | .error error => ofFailure output (.rejected error)
    | .ok listing => ofOutput (output ++ listing)

def ofInvocation (world : Surroundings σ) (invocation : Invocation) : Report :=
  match world.configOf invocation with
  | .error failure => ofFailure "" failure
  | .ok config =>
    match invocation.command with
    | .compile input dialect format => compile world input dialect format
    | .dialects => ofOutput Listing.dialects
    | .inspect inspection => connect world.driver inspection config invocation.verbose

/-- The text that explains the commands. -/
def help : String :=
  "Compile query and schema IR to MySQL, PostgreSQL, SQLite and SQL Server\n\n" ++
  "Commands: compile INPUT [-d DIALECT] [-f text|json], tables, columns TABLE, database, " ++
  "dialects\n" ++
  "Options: --database-url URL, --config FILE, -v\n"

/-- The report on arguments. -/
def ofArguments (world : Surroundings σ) (arguments : List String) : Report :=
  match Invocation.ofArguments? arguments with
  | none => misuse
  | some .help => ofOutput help
  | some .version => ofOutput "qail-sql 0.1.0\n"
  | some (.invoke invocation) => ofInvocation world invocation

end Report

end SqlDialects
