/-! Arguments of a command line: options by name or by letter, and words. -/

namespace SqlDialects

/-- An option that a command knows. -/
structure OptionSpec where
  name : String
  letter : Option Char := none
  takesValue : Bool := false
  /-- Whether nothing that follows it is looked at. -/
  ends : Bool := false
deriving DecidableEq, Repr

/-- One item of a command line. -/
inductive Argument where
  /-- An option that stands for itself. -/
  | switch (name : String)
  | option (name value : String)
  | word (text : String)
deriving DecidableEq, Repr

namespace Argument

/-- Whether an argument is written like an option; a single dash is a word. -/
def looksLikeOption (text : List Char) : Bool :=
  match text with
  | '-' :: _ :: _ => true
  | _ => false

/-- What one argument says: some items, and perhaps an option whose value comes next. -/
structure Reading where
  items : List Argument := []
  waiting : Option String := none
  ended : Bool := false

/-- An option by its name, perhaps with its value after an equals sign. -/
def readName (specs : List OptionSpec) (text : List Char) : Option Reading := do
  let (name, value) := text.span (· != '=')
  let spec ← specs.find? fun spec => spec.name.toList == name
  match spec.takesValue, value with
  | true, [] => return { waiting := some spec.name }
  | true, _ :: value => return { items := [.option spec.name (String.ofList value)] }
  | false, [] => return { items := [.switch spec.name], ended := spec.ends }
  | false, _ :: _ => none

/-- The value that directly follows the letter of an option, perhaps after an equals sign. -/
def attachedValue (text : List Char) : String :=
  match text with
  | '=' :: rest => String.ofList rest
  | rest => String.ofList rest

/-- Options by their letters. The first that takes a value takes all that follows it; after one that
ends the command line the letters are not looked at. -/
def readLetters (specs : List OptionSpec) : List Char → Option Reading
  | [] => some {}
  | c :: rest => do
    let spec ← specs.find? fun spec => spec.letter == some c
    if spec.takesValue then
      if rest.isEmpty then return { waiting := some spec.name }
      else return { items := [.option spec.name (attachedValue rest)] }
    else if spec.ends then return { items := [.switch spec.name], ended := true }
    else
      let reading ← readLetters specs rest
      return { reading with items := .switch spec.name :: reading.items }

/-- The items of a command line, and the arguments that are left. With `untilWord` it ends before
the first word; after a double dash there are only words. `waiting` is an option whose value comes
next. After an option that ends the command line no arguments are left. -/
def readAll (specs : List OptionSpec) (untilWord : Bool) (waiting : Option String) :
    List String → Option (List Argument × List String)
  | [] => if waiting.isSome then none else some ([], [])
  | text :: rest =>
    match waiting with
    | some name =>
      if looksLikeOption text.toList then none
      else do
        let (items, left) ← readAll specs untilWord none rest
        return (.option name text :: items, left)
    | none => do
      match text.toList with
      | ['-', '-'] => return (rest.map .word, [])
      | '-' :: c :: letters =>
        let reading ←
          if c = '-' then readName specs letters else readLetters specs (c :: letters)
        if reading.ended then return (reading.items, [])
        else
          let (items, left) ← readAll specs untilWord reading.waiting rest
          return (reading.items ++ items, left)
      | _ =>
        if untilWord then return ([], text :: rest)
        else do
          let (items, left) ← readAll specs untilWord none rest
          return (.word text :: items, left)

/-- The name of an option. -/
def name? : Argument → Option String
  | switch name => some name
  | option name _ => some name
  | word _ => none

def word? : Argument → Option String
  | word text => some text
  | _ => none

/-- The value of an option among the items. -/
def valueOf? (items : List Argument) (name : String) : Option String :=
  items.findSome? fun
    | option other value => if other = name then some value else none
    | _ => none

/-- Whether an option is among the items. -/
def has (items : List Argument) (name : String) : Bool :=
  items.any fun item => item.name? == some name

/-- Every option is given at most once. -/
def distinct (items : List Argument) : Bool := decide (items.filterMap name?).Nodup

end Argument

end SqlDialects
