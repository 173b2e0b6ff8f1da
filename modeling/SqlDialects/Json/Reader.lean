import SqlDialects.Json.Token

/-! Reading JSON: a machine that takes one token at a time and keeps the open containers on a
stack. -/

namespace SqlDialects.Json

/-- A container that is still open, with its contents so far in reverse. -/
inductive Frame where
  | array (done : List Json)
  | object (done : List (String × Json))
  /-- An object whose last key has no value yet. -/
  | entry (done : List (String × Json)) (key : String)

/-- What the machine expects next. -/
inductive Expect where
  | value
  | elementOrClose
  | key
  | keyOrClose
  | colon
  /-- A comma or the end of the innermost container. -/
  | separator
  /-- Nothing: the value is complete. -/
  | nothing (result : Json)

structure Machine where
  stack : List Frame
  expect : Expect

/-- The greatest number of nested containers that is read. -/
def maxDepth : Nat := 127

namespace Machine

def start : Machine := ⟨[], .value⟩

/-- The machine after a complete value within these open containers. -/
def complete (value : Json) : List Frame → Machine
  | [] => ⟨[], .nothing value⟩
  | .array done :: rest => ⟨.array (value :: done) :: rest, .separator⟩
  | .entry done key :: rest => ⟨.object ((key, value) :: done) :: rest, .separator⟩
  | .object done :: rest => ⟨.object done :: rest, .separator⟩

def openFrame (frame : Frame) (expect : Expect) (stack : List Frame) : Option Machine :=
  if stack.length < maxDepth then some ⟨frame :: stack, expect⟩ else none

/-- The first token of a value. -/
def startValue (stack : List Frame) : Token → Option Machine
  | .scalar value => some (complete value stack)
  | .string s => some (complete (.string s) stack)
  | .openArray => openFrame (.array []) .elementOrClose stack
  | .openObject => openFrame (.object []) .keyOrClose stack
  | _ => none

/-- A key of the innermost object. -/
def startEntry (key : String) : List Frame → Option Machine
  | .object done :: rest => some ⟨.entry done key :: rest, .colon⟩
  | _ => none

def close (token : Token) : List Frame → Option Machine
  | .array done :: rest =>
    match token with
    | .closeArray => some (complete (.array done.reverse) rest)
    | _ => none
  | .object done :: rest =>
    match token with
    | .closeObject => some (complete (.object done.reverse) rest)
    | _ => none
  | _ => none

/-- A comma within the innermost container. -/
def next : List Frame → Option Machine
  | .array done :: rest => some ⟨.array done :: rest, .value⟩
  | .object done :: rest => some ⟨.object done :: rest, .key⟩
  | _ => none

def step (machine : Machine) (token : Token) : Option Machine :=
  match machine.expect, token with
  | .value, token => startValue machine.stack token
  | .elementOrClose, .closeArray => close .closeArray machine.stack
  | .elementOrClose, token => startValue machine.stack token
  | .key, .string key => startEntry key machine.stack
  | .keyOrClose, .string key => startEntry key machine.stack
  | .keyOrClose, .closeObject => close .closeObject machine.stack
  | .colon, .colon => some ⟨machine.stack, .value⟩
  | .separator, .comma => next machine.stack
  | .separator, token => close token machine.stack
  | _, _ => none

def run (machine : Machine) : List Token → Option Machine
  | [] => some machine
  | token :: rest => (machine.step token).bind (run · rest)

end Machine

/-- The value of a JSON text. The text is one value and white space, nested no deeper than
`maxDepth`. -/
def ofChars? (text : List Char) : Option Json := do
  let tokens ← Token.ofText? text
  let machine ← Machine.start.run tokens
  match machine.expect with
  | .nothing result => some result
  | _ => none

def ofText? (text : String) : Option Json := ofChars? text.toList

end SqlDialects.Json
