import SqlDialects.Dialect
import SqlDialects.Number.Layout
import SqlDialects.Text.Quoted
import SqlDialects.Text.Separated
import SqlDialects.Value.Timestamp

/-! The values that statements bind and their texts: the literal in SQL, the text for people and
the form inside messages. -/

namespace SqlDialects

inductive Value where
  | null
  | bool (value : Bool)
  | int (value : Int64)
  | float (value : Double)
  | string (value : String)
  | bytes (value : List UInt8)
  | timestamp (value : Timestamp)
deriving DecidableEq, Repr

/-- A string literal, with its quotes doubled. -/
def quoteString (s : String) : String :=
  String.ofList ('\'' :: Text.double '\'' s.toList ++ ['\''])

namespace Value

/-- The literal that stands for the value where no placeholder is accepted. -/
def literal (dialect : Dialect) : Value → String
  | .null => "NULL"
  | .bool b => dialect.boolLiteral b
  | .int n => toString n.toInt
  | .float x => NumberLayout.plain.write x
  | .string s => quoteString s
  | .bytes content => String.ofList ('X' :: '\'' :: content.flatMap Text.hexPair ++ ['\''])
  | .timestamp t => quoteString (String.ofList t.sqlText)

/-- The text in listings of bound values, which is not meant to be read back. -/
def display : Value → String
  | .null => "NULL"
  | .bool b => if b then "true" else "false"
  | .int n => toString n.toInt
  | .float x => NumberLayout.plain.write x
  | .string s => "'" ++ s ++ "'"
  | .bytes content => "<" ++ toString content.length ++ " bytes>"
  | .timestamp t => "'" ++ String.ofList t.sqlText ++ "'"

/-- The form inside messages. -/
def inspect : Value → String
  | .null => "Null"
  | .bool b => "Bool(" ++ (if b then "true" else "false") ++ ")"
  | .int n => "Int(" ++ toString n.toInt ++ ")"
  | .float x => "Float(" ++ NumberLayout.inspect.write x ++ ")"
  | .string s => "String(" ++ Text.quoted s ++ ")"
  | .bytes content => "Bytes([" ++ Text.join ", " (content.map fun b => toString b.toNat) ++ "])"
  | .timestamp t => "Timestamp(" ++ String.ofList t.isoText ++ ")"

end Value

end SqlDialects
