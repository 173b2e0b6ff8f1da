import SqlDialects.Table.Basic
import SqlDialects.Value.Json

/-! Columns, keys and descriptions of tables as JSON. -/

namespace SqlDialects

open Json

namespace ColumnOptions

def toJson (options : ColumnOptions) : Json :=
  .object [
    ("size", orNull (fun s : SizeClass => .string s.name) options.size),
    ("length", orNull (fun n : UInt32 => .nat n.toNat) options.length),
    ("precision", orNull (fun n : UInt32 => .nat n.toNat) options.precision),
    ("unsigned", .bool options.unsigned),
    ("nullable", .bool options.nullable),
    ("default", orNull Value.toJson options.default),
    ("description", orNull .string options.description),
    ("autoincrement", .bool options.autoincrement)]

def fieldNames : List String :=
  ["size", "length", "precision", "unsigned", "nullable", "default", "description",
    "autoincrement"]

def uint32? (j : Json) : Option UInt32 := (j.nat? 32).map UInt32.ofNat

def ofJson? (j : Json) : Option ColumnOptions := do
  let r ← j.record? fieldNames
  let size ← r.withDefault "size" none (nullable? (choice? SizeClass.named))
  let length ← r.withDefault "length" none (nullable? uint32?)
  let precision ← r.withDefault "precision" none (nullable? uint32?)
  let unsigned ← r.withDefault "unsigned" false bool?
  let mayBeNull ← r.withDefault "nullable" true bool?
  let default ← r.withDefault "default" none (nullable? Value.ofJson?)
  let description ← r.withDefault "description" none (nullable? string?)
  let autoincrement ← r.withDefault "autoincrement" false bool?
  return ⟨size, length, precision, unsigned, mayBeNull, default, description, autoincrement⟩

end ColumnOptions

namespace Column

def toJson (column : Column) : Json :=
  .object [("name", .string column.name), ("column_type", .string column.type.name),
    ("props", column.options.toJson)]

def ofJson? (j : Json) : Option Column := do
  let r ← j.record? ["name", "column_type", "props"]
  let name ← r.required "name" string?
  let type ← r.required "column_type" (choice? ColumnType.named)
  let options ← r.withDefault "props" {} ColumnOptions.ofJson?
  return ⟨name, type, options⟩

end Column

namespace Key

def toJson (key : Key) : Json :=
  .object [("name", .string key.name), ("columns", list .string key.columns)]

def ofJson? (j : Json) : Option Key := do
  let r ← j.record? ["name", "columns"]
  let name ← r.required "name" string?
  let columns ← r.required "columns" (list? string?)
  return ⟨name, columns⟩

end Key

namespace ForeignKey

def toJson (key : ForeignKey) : Json :=
  .object [
    ("name", .string key.name),
    ("columns", list .string key.columns),
    ("ref_table", .string key.refTable),
    ("ref_columns", list .string key.refColumns),
    ("on_delete", orNull (fun a : ReferentialAction => .string a.name) key.onDelete),
    ("on_update", orNull (fun a : ReferentialAction => .string a.name) key.onUpdate)]

def fieldNames : List String :=
  ["name", "columns", "ref_table", "ref_columns", "on_delete", "on_update"]

/-- A foreign key has to be an object. -/
def ofJson? : Json → Option ForeignKey
  | .object entries => do
    let r ← record? fieldNames (.object entries)
    let name ← r.required "name" string?
    let columns ← r.required "columns" (list? string?)
    let refTable ← r.required "ref_table" string?
    let refColumns ← r.required "ref_columns" (list? string?)
    let onDelete ← r.withDefault "on_delete" none (nullable? (choice? ReferentialAction.named))
    let onUpdate ← r.withDefault "on_update" none (nullable? (choice? ReferentialAction.named))
    return ⟨name, columns, refTable, refColumns, onDelete, onUpdate⟩
  | _ => none

end ForeignKey

namespace CreateTable

def fieldsToJson (table : CreateTable) : List (String × Json) :=
  [("name", .string table.name),
    ("columns", list Column.toJson table.columns),
    ("primary_key", orNull Key.toJson table.primaryKey),
    ("unique_keys", list Key.toJson table.uniqueKeys),
    ("indexes", list Key.toJson table.indexes),
    ("foreign_keys", list ForeignKey.toJson table.foreignKeys),
    ("engine", orNull .string table.engine)]

def toJson (table : CreateTable) : Json := .object table.fieldsToJson

def fieldNames : List String :=
  ["name", "columns", "primary_key", "unique_keys", "indexes", "foreign_keys", "engine"]

def ofJson? (j : Json) : Option CreateTable := do
  let r ← j.record? fieldNames
  let name ← r.required "name" string?
  let columns ← r.required "columns" (list? Column.ofJson?)
  let primaryKey ← r.withDefault "primary_key" none (nullable? Key.ofJson?)
  let uniqueKeys ← r.withDefault "unique_keys" [] (list? Key.ofJson?)
  let indexes ← r.withDefault "indexes" [] (list? Key.ofJson?)
  let foreignKeys ← r.withDefault "foreign_keys" [] (list? ForeignKey.ofJson?)
  let engine ← r.withDefault "engine" none (nullable? string?)
  return ⟨name, columns, primaryKey, uniqueKeys, indexes, foreignKeys, engine⟩

end CreateTable

namespace AlterOperation

def toJson : AlterOperation → Json
  | addColumn column => variant "AddColumn" column.toJson
  | addAutoincrement column key =>
    variant "AddAutoincrement" (.object [("column", column.toJson), ("key", .string key)])
  | modifyColumn column => variant "ModifyColumn" column.toJson
  | renameColumn source target =>
    variant "RenameColumn" (.object [("from", .string source), ("to", .string target)])
  | dropColumn name => variant "DropColumn" (.string name)
  | addKey kind key =>
    variant "AddKey" (.object [("kind", .string kind.name), ("key", key.toJson)])
  | addForeign key => variant "AddForeign" key.toJson
  | dropKey kind name =>
    variant "DropKey" (.object [("kind", .string kind.name), ("name", .string name)])
  | setDefault column value =>
    variant "SetDefault" (.object [("column", .string column), ("value", value.toJson)])
  | dropDefault column => variant "DropDefault" (.string column)
  | autoincrement column key =>
    variant "Autoincrement" (.object [("column", column.toJson), ("key", .string key)])

def ofJson? (j : Json) : Option AlterOperation := do
  match ← j.variant? with
  | ("AddColumn", some j) => (Column.ofJson? j).map addColumn
  | ("AddAutoincrement", some j) => do
    let r ← j.record? ["column", "key"]
    return addAutoincrement (← r.required "column" Column.ofJson?) (← r.required "key" string?)
  | ("ModifyColumn", some j) => (Column.ofJson? j).map modifyColumn
  | ("RenameColumn", some j) => do
    let r ← j.record? ["from", "to"]
    return renameColumn (← r.required "from" string?) (← r.required "to" string?)
  | ("DropColumn", some j) => j.string?.map dropColumn
  | ("AddKey", some j) => do
    let r ← j.record? ["kind", "key"]
    return addKey (← r.required "kind" (choice? KeyKind.named)) (← r.required "key" Key.ofJson?)
  | ("AddForeign", some j) => (ForeignKey.ofJson? j).map addForeign
  | ("DropKey", some j) => do
    let r ← j.record? ["kind", "name"]
    return dropKey (← r.required "kind" (choice? KeyKind.named)) (← r.required "name" string?)
  | ("SetDefault", some j) => do
    let r ← j.record? ["column", "value"]
    return setDefault (← r.required "column" string?) (← r.required "value" Value.ofJson?)
  | ("DropDefault", some j) => j.string?.map dropDefault
  | ("Autoincrement", some j) => do
    let r ← j.record? ["column", "key"]
    return autoincrement (← r.required "column" Column.ofJson?) (← r.required "key" string?)
  | _ => none

end AlterOperation

namespace AlterTable

def toJson (alter : AlterTable) : Json :=
  .object [("name", .string alter.name),
    ("operations", list AlterOperation.toJson alter.operations)]

def ofJson? (j : Json) : Option AlterTable := do
  let r ← j.record? ["name", "operations"]
  let name ← r.required "name" string?
  let operations ← r.withDefault "operations" [] (list? AlterOperation.ofJson?)
  return ⟨name, operations⟩

end AlterTable

namespace ColumnTypes

def toJson (types : ColumnTypes) : Json :=
  .object (types.entries.map fun entry => (entry.1, .string entry.2))

/-- An object from names to types; of a repeated name the last entry counts. -/
def ofJson? : Json → Option ColumnTypes
  | .object entries => do
    let types ← entries.mapM fun entry => entry.2.string?.map fun type => (entry.1, type)
    return ofList types
  | _ => none

end ColumnTypes

end SqlDialects
