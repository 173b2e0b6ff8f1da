import SqlDialects.Config.Basic
import SqlDialects.Toml.Reader

/-! Reading a configuration from TOML. It has the sections `database` and `log`; a setting that is
missing has its default, and unknown settings are ignored. -/

namespace SqlDialects

namespace Toml

def string? : Toml → Option String
  | .string s => some s
  | _ => none

/-- An integer of 32 bits without a sign. -/
def uint32? : Toml → Option UInt32
  | .int n => if 0 ≤ n ∧ n.toNat < UInt32.size then some (UInt32.ofNat n.toNat) else none
  | _ => none

/-- Whether the value is a table or an array without contents. -/
def isEmpty : Toml → Bool
  | .table _ entries => entries.isEmpty
  | .array elements => elements.isEmpty
  | .tables elements => elements.isEmpty
  | _ => false

/-- A dialect by its name, or by an empty table of that name. -/
def dialect? : Toml → Option Dialect
  | .string name => Dialect.ofConfigName? name
  | .table _ [(name, payload)] => if payload.isEmpty then Dialect.ofConfigName? name else none
  | _ => none

/-- The settings of a section that are present. -/
structure Section where
  /-- Whether the section was written as an array. -/
  positional : Bool
  settings : List (String × Toml)

/-- The section with the named settings: a table, or an array of the settings in order. A date is a
section without any settings. -/
def section? (names : List String) : Toml → Option Section
  | .table _ entries => some ⟨false, entries⟩
  | .array elements => some ⟨true, names.zip elements⟩
  | .tables elements => some ⟨true, names.zip (elements.map (.table .header))⟩
  | .date => some ⟨false, []⟩
  | _ => none

namespace Section

/-- A setting with a value to use when it is missing. -/
def withDefault (part : Section) (name : String) (default : α) (decode : Toml → Option α) :
    Option α :=
  match Entries.find? part.settings name with
  | some value => decode value
  | none => some default

/-- A setting without a value when it is missing from a table; an array must have it. -/
def optional (part : Section) (name : String) (decode : Toml → Option α) : Option (Option α) :=
  match Entries.find? part.settings name with
  | some value => (decode value).map some
  | none => if part.positional then none else some none

end Section

end Toml

namespace Config

/-- The configuration with the settings of the section `database`. -/
def readDatabase? (config : Config) (value : Toml) : Option Config := do
  let part ← value.section? ["url", "dialect", "max_connections"]
  let url ← part.optional "url" Toml.string?
  let dialect ← part.optional "dialect" Toml.dialect?
  let maxConnections ← part.withDefault "max_connections" 5 Toml.uint32?
  return { config with url := url, dialect := dialect, maxConnections := maxConnections }

/-- The configuration with the settings of the section `log`. -/
def readLog? (config : Config) (value : Toml) : Option Config := do
  let part ← value.section? ["filter"]
  return { config with filter := ← part.withDefault "filter" "info" Toml.string? }

/-- The configuration of a TOML text. -/
def ofText? (text : String) : Option Config := do
  let entries ← Toml.ofText? text
  let config ←
    match entries.find? "database" with
    | some value => readDatabase? {} value
    | none => some {}
  match entries.find? "log" with
  | some value => config.readLog? value
  | none => return config

end Config

end SqlDialects
