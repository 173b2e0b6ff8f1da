import SqlDialects.CommandLine.Run

/-! The program: it looks at the world, and writes its report. -/

namespace SqlDialects

/-- Why a file could not be read. -/
def readingProblem : IO.Error → String
  | .noFileOrDirectory .. => "No such file or directory (os error 2)"
  | error => toString error

def readFile (path : String) : IO (Except String String) := do
  try
    return .ok (← IO.FS.readFile path)
  catch error =>
    return .error (readingProblem error)

/-- All that is left of a stream. -/
partial def readAllLines (stream : IO.FS.Stream) (text : String) : IO String := do
  let line ← stream.getLine
  if line.isEmpty then return text else readAllLines stream (text ++ line)

/-- The places of configuration files. -/
def configPlaces : IO (List String) := do
  let own := "qail-sql.toml"
  match ← IO.getEnv "XDG_CONFIG_HOME", ← IO.getEnv "HOME" with
  | some folder, _ => return [own, folder ++ "/qail-sql/config.toml"]
  | none, some folder => return [own, folder ++ "/.config/qail-sql/config.toml"]
  | none, none => return [own]

/-- The files that an invocation may read, with their texts. -/
def readFiles (paths : List String) : IO (List (String × Except String String)) :=
  paths.mapM fun path => return (path, ← readFile path)

/-- No driver is part of this program, so every connection is refused. -/
def refusingDriver : Driver Empty where
  connect connection :=
    .error (.database ("no driver for " ++ connection.dialect.name ++ " is available"))
  database := ⟨fun _ => return [], fun _ => return ⟨0, none⟩⟩

/-- The world as an invocation sees it. -/
def lookAround (invocation : Invocation) : IO (Surroundings Empty) := do
  let places ← configPlaces
  let configs ← readFiles places
  let input :=
    match invocation.command with
    | .compile path _ _ => [path]
    | _ => []
  let named ← readFiles (invocation.configPath.toList ++ input.filter (· != "-"))
  let files := named ++ configs
  let text ← if input.contains "-" then readAllLines (← IO.getStdin) "" else pure ""
  return {
    read := fun path => ((files.find? fun file => file.1 == path).map Prod.snd).getD
      (.error "not read")
    configFiles := (configs.filter fun file => file.2.toOption.isSome).map Prod.fst
    url := ← IO.getEnv "QAIL_SQL_DATABASE_URL"
    input := text
    driver := refusingDriver }

/-- The world of an intent that needs nothing of it. -/
def emptySurroundings : Surroundings Empty :=
  ⟨fun _ => .error "not read", [], none, "", refusingDriver⟩

end SqlDialects

open SqlDialects in
def main (arguments : List String) : IO UInt32 := do
  let world ←
    match Invocation.ofArguments? arguments with
    | some (.invoke invocation) => lookAround invocation
    | _ => pure emptySurroundings
  let report := Report.ofArguments world arguments
  IO.print report.output
  IO.eprint report.errors
  return UInt32.ofNat report.status
