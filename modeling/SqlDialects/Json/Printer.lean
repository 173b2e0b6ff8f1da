import SqlDialects.Json.Basic
import SqlDialects.Number.Layout
import SqlDialects.Text.Separated

/-! Writing JSON: without any white space, and indented by two blanks. -/

namespace SqlDialects.Json

/-- The lower-case hexadecimal digit of `n % 16`. -/
def lowerHex (n : Nat) : Char := "0123456789abcdef".toList.getD (n % 16) '0'

/-- A character within a string. -/
def escapeChar (c : Char) : List Char :=
  if c = '"' then ['\\', '"']
  else if c = '\\' then ['\\', '\\']
  else if c = '\x08' then ['\\', 'b']
  else if c = '\t' then ['\\', 't']
  else if c = '\n' then ['\\', 'n']
  else if c = '\x0c' then ['\\', 'f']
  else if c = '\r' then ['\\', 'r']
  else if c.toNat < 0x20 then
    ['\\', 'u', '0', '0', lowerHex (c.toNat / 16), lowerHex c.toNat]
  else [c]

def stringText (s : String) : String :=
  "\"" ++ String.ofList (s.toList.flatMap escapeChar) ++ "\""

mutual

/-- The text of a value without white space. -/
def compact : Json → String
  | .null => "null"
  | .bool true => "true"
  | .bool false => "false"
  | .int n => toString n
  | .double x => NumberLayout.json.write x
  | .string s => stringText s
  | .array elements => "[" ++ Text.join "," (compactList elements) ++ "]"
  | .object entries => "\x7b" ++ Text.join "," (compactEntries entries) ++ "\x7d"

def compactList : List Json → List String
  | [] => []
  | j :: rest => j.compact :: compactList rest

def compactEntries : List (String × Json) → List String
  | [] => []
  | (key, j) :: rest => (stringText key ++ ":" ++ j.compact) :: compactEntries rest

end

/-- A line break and `level` indentations. -/
def newline (level : Nat) : String :=
  String.ofList ('\n' :: List.replicate (2 * level) ' ')

/-- The items of a container, each on a line of its own; nothing at all if there are none. -/
def indentedItems (level : Nat) (items : List String) : String :=
  match items with
  | [] => ""
  | items => newline (level + 1) ++ Text.join ("," ++ newline (level + 1)) items ++ newline level

mutual

/-- The text of a value whose first line stands `level` indentations deep. -/
def indented (level : Nat) : Json → String
  | .array elements => "[" ++ indentedItems level (indentedList (level + 1) elements) ++ "]"
  | .object entries =>
    "\x7b" ++ indentedItems level (indentedEntries (level + 1) entries) ++ "\x7d"
  | .null => "null"
  | .bool true => "true"
  | .bool false => "false"
  | .int n => toString n
  | .double x => NumberLayout.json.write x
  | .string s => stringText s

def indentedList (level : Nat) : List Json → List String
  | [] => []
  | j :: rest => j.indented level :: indentedList level rest

def indentedEntries (level : Nat) : List (String × Json) → List String
  | [] => []
  | (key, j) :: rest => (stringText key ++ ": " ++ j.indented level) :: indentedEntries level rest

end

end SqlDialects.Json
