import SqlDialects.Change.Basic
import SqlDialects.Query.Json

/-! Changes of rows as JSON. -/

namespace SqlDialects

open Json

namespace Written

def toJson : Written → Json
  | value v => variant "Value" v.toJson
  | expression terms => variant "Expression" (.object [("nodes", .array (Term.listToJson terms))])

def ofJson? (fuel : Nat) (j : Json) : Option Written := do
  match ← j.variant? with
  | ("Value", some j) => (Value.ofJson? j).map value
  | ("Expression", some j) => (itemsOf? "nodes" (Term.ofJson? fuel) j).map expression
  | _ => none

end Written

namespace Insert

def fieldsToJson (insert : Insert) : List (String × Json) :=
  [("table", .string insert.table), ("columns", list .string insert.columns),
    ("rows", list (list Written.toJson) insert.rows)]

def toJson (insert : Insert) : Json := .object insert.fieldsToJson

def ofJson? (fuel : Nat) (j : Json) : Option Insert := do
  let r ← j.record? ["table", "columns", "rows"]
  let table ← r.required "table" string?
  let columns ← r.required "columns" (list? string?)
  let rows ← r.required "rows" (list? (list? (Written.ofJson? fuel)))
  return ⟨table, columns, rows⟩

end Insert

namespace Update

def fieldsToJson (update : Update) : List (String × Json) :=
  [("statement", update.query.toJson),
    ("assignments",
      list (fun a : String × Written => .array [.string a.1, a.2.toJson]) update.assignments)]

def toJson (update : Update) : Json := .object update.fieldsToJson

def ofJson? (fuel : Nat) (j : Json) : Option Update := do
  let r ← j.record? ["statement", "assignments"]
  let query ← r.required "statement" (Query.ofJson? fuel)
  let assignments ← r.required "assignments" (list? (pair? string? (Written.ofJson? fuel)))
  return ⟨query, assignments⟩

end Update

namespace Delete

def fieldsToJson (delete : Delete) : List (String × Json) :=
  [("statement", delete.query.toJson), ("targets", list .string delete.targets)]

def toJson (delete : Delete) : Json := .object delete.fieldsToJson

def ofJson? (fuel : Nat) (j : Json) : Option Delete := do
  let r ← j.record? ["statement", "targets"]
  let query ← r.required "statement" (Query.ofJson? fuel)
  let targets ← r.withDefault "targets" [] (list? string?)
  return ⟨query, targets⟩

end Delete

end SqlDialects
