import SqlDialects.Json.Decode
import SqlDialects.Json.Reader
import SqlDialects.Value.Basic

/-! Values as JSON: a variant named for the kind, with the content as payload. -/

namespace SqlDialects.Value

def toJson : Value → Json
  | .null => .string "Null"
  | .bool b => .variant "Bool" (.bool b)
  | .int n => .variant "Int" (.int n.toInt)
  | .float x => .variant "Float" (.double x)
  | .string s => .variant "String" (.string s)
  | .bytes content => .variant "Bytes" (.list (fun b => .nat b.toNat) content)
  | .timestamp t => .variant "Timestamp" (.string (String.ofList t.isoText))

def int64? (j : Json) : Option Int64 :=
  (j.intWithin? Int64.minValue.toInt Int64.maxValue.toInt).map Int64.ofInt

def byte? (j : Json) : Option UInt8 := (j.nat? 8).map UInt8.ofNat

def ofJson? (j : Json) : Option Value := do
  match ← j.variant? with
  | ("Null", payload) => if Json.isUnit payload then some .null else none
  | ("Bool", some j) => j.bool?.map .bool
  | ("Int", some j) => (int64? j).map .int
  | ("Float", some j) => j.double?.map .float
  | ("String", some j) => j.string?.map .string
  | ("Bytes", some j) => (j.list? byte?).map .bytes
  | ("Timestamp", some j) => do
    let s ← j.string?
    (Timestamp.ofText? s.toList).map .timestamp
  | _ => none

/-- The value of a JSON text of its own. Here the payload of `Null` can only be `null`. -/
def ofText? (text : String) : Option Value := do
  let j ← Json.ofText? text
  match j with
  | .object [("Null", .object [])] => none
  | j => ofJson? j

end SqlDialects.Value
