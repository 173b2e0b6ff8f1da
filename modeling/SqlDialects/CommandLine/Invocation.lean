import SqlDialects.CommandLine.Argument
import SqlDialects.Dialect.Selection

/-! What a command line asks for. Some options belong to all commands and may stand before or after
the name of the command. -/

namespace SqlDialects

inductive OutputFormat where
  | text
  | json
deriving DecidableEq, Repr

/-- What a database is asked about itself. -/
inductive Inspection where
  | tables
  | columns (table : String)
  | database
deriving DecidableEq, Repr

inductive Command where
  /-- Compiles a statement from a file, or from the standard input if the file is a dash. -/
  | compile (input : String) (dialect : Dialect) (format : OutputFormat)
  | inspect (inspection : Inspection)
  | dialects
deriving DecidableEq, Repr

structure Invocation where
  databaseUrl : Option String := none
  configPath : Option String := none
  verbose : Bool := false
  command : Command
deriving DecidableEq, Repr

/-- What to do about a command line that makes sense. -/
inductive Intent where
  | invoke (invocation : Invocation)
  | help
  | version
deriving DecidableEq, Repr

namespace OutputFormat

def ofName? : String → Option OutputFormat
  | "text" => some text
  | "json" => some json
  | _ => none

end OutputFormat

namespace Invocation

def sharedOptions : List OptionSpec := [
  { name := "database-url", takesValue := true },
  { name := "config", takesValue := true },
  { name := "verbose", letter := some 'v' },
  { name := "help", letter := some 'h', ends := true }]

/-- The options before the name of the command. -/
def leadingOptions : List OptionSpec :=
  sharedOptions ++ [{ name := "version", letter := some 'V', ends := true }]

def compileOptions : List OptionSpec :=
  sharedOptions ++ [
    { name := "dialect", letter := some 'd', takesValue := true },
    { name := "format", letter := some 'f', takesValue := true }]

/-- The options after the name of a command. -/
def optionsOf (command : String) : List OptionSpec :=
  if command = "compile" then compileOptions else sharedOptions

/-- The commands by their names, with the number of words that each takes. -/
def commands : List (String × Nat) :=
  [("compile", 1), ("tables", 0), ("columns", 1), ("database", 0), ("dialects", 0)]

/-- Whether an option may have the value that it was given. -/
def accepts : Argument → Bool
  | .option "config" path => path != ""
  | .option "dialect" name => (Dialect.ofName name).isOk
  | .option "format" name => (OutputFormat.ofName? name).isSome
  | _ => true

/-- Whether items make sense so far: no option twice, values that are allowed, and no more words
than there is room for. -/
def sensible (words : Nat) (items : List Argument) : Bool :=
  Argument.distinct items && items.all accepts &&
    (items.filterMap Argument.word?).length ≤ words

/-- Whether there is help on a list of names: on nothing in particular, or on one command. -/
def hasHelpOn : List String → Bool
  | [] => true
  | [name] => name == "help" || commands.any fun command => command.1 == name
  | _ => false

/-- The command of this name with these items after it. -/
def readCommand (name : String) (items : List Argument) : Option Command := do
  match name, items.filterMap Argument.word? with
  | "compile", [input] =>
    let format ← OutputFormat.ofName? ((Argument.valueOf? items "format").getD "text")
    match Dialect.ofName ((Argument.valueOf? items "dialect").getD "postgres") with
    | .ok dialect => return .compile input dialect format
    | .error _ => none
  | "tables", [] => return .inspect .tables
  | "columns", [table] => return .inspect (.columns table)
  | "database", [] => return .inspect .database
  | "dialects", [] => return .dialects
  | _, _ => none

/-- The invocation with items before and after the name of its command. An option after the name
goes before one of the same name in front of it. -/
def ofItems (leading trailing : List Argument) (command : Command) : Invocation :=
  let value (name : String) : Option String :=
    Argument.valueOf? trailing name <|> Argument.valueOf? leading name
  { databaseUrl := value "database-url"
    configPath := value "config"
    verbose := Argument.has leading "verbose" || Argument.has trailing "verbose"
    command := command }

/-- What the arguments ask for; `none` if they make no sense. -/
def ofArguments? (arguments : List String) : Option Intent := do
  let (leading, rest) ← Argument.readAll leadingOptions true none arguments
  guard (sensible 0 leading)
  if Argument.has leading "help" then
    return .help
  if Argument.has leading "version" then
    return .version
  match rest with
  | [] => none
  | "help" :: names => if hasHelpOn names then return .help else none
  | name :: rest =>
    let (_, words) ← commands.find? fun command => command.1 == name
    let (trailing, _) ← Argument.readAll (optionsOf name) false none rest
    guard (sensible words trailing)
    if Argument.has trailing "help" then
      return .help
    return .invoke (ofItems leading trailing (← readCommand name trailing))

end Invocation

end SqlDialects
