import SqlDialects.Table.Column

/-! Descriptions of tables to create and of changes to existing ones. -/

namespace SqlDialects

/-- A table to create. -/
structure CreateTable where
  name : String
  columns : List Column := []
  primaryKey : Option Key := none
  uniqueKeys : List Key := []
  indexes : List Key := []
  foreignKeys : List ForeignKey := []
  /-- The storage engine, of which MySQL alone takes note. -/
  engine : Option String := none
deriving DecidableEq, Repr

/-- One change to an existing table. -/
inductive AlterOperation where
  | addColumn (column : Column)
  /-- A new auto-incrementing column together with its primary key. -/
  | addAutoincrement (column : Column) (key : String)
  | modifyColumn (column : Column)
  | renameColumn (source target : String)
  | dropColumn (name : String)
  | addKey (kind : KeyKind) (key : Key)
  | addForeign (key : ForeignKey)
  | dropKey (kind : KeyKind) (name : String)
  | setDefault (column : String) (value : Value)
  | dropDefault (column : String)
  /-- An existing column becomes the auto-incrementing primary key. -/
  | autoincrement (column : Column) (key : String)
deriving DecidableEq, Repr

/-- The changes to one table, in order. -/
structure AlterTable where
  name : String
  operations : List AlterOperation := []
deriving DecidableEq, Repr

namespace AlterTable

/-- The columns whose present type a renaming may need. -/
def renamedColumns (alter : AlterTable) : List String :=
  alter.operations.filterMap fun
    | .renameColumn source _ => some source
    | _ => none

end AlterTable

/-- The native types of the columns of a table, by name. -/
structure ColumnTypes where
  entries : List (String × String)
  distinct : (entries.map Prod.fst).Nodup
deriving DecidableEq, Repr

namespace ColumnTypes

def empty : ColumnTypes := ⟨[], List.nodup_nil⟩

/-- The entries with the type of one column replaced where it stands, or added at the end. -/
def insertEntry (name type : String) : List (String × String) → List (String × String)
  | [] => [(name, type)]
  | entry :: rest =>
    if entry.1 = name then (name, type) :: rest else entry :: insertEntry name type rest

theorem mem_keys_insertEntry {name type key : String} {entries : List (String × String)} :
    key ∈ (insertEntry name type entries).map Prod.fst ↔
      key = name ∨ key ∈ entries.map Prod.fst := by
  induction entries with
  | nil => simp [insertEntry]
  | cons entry rest ih =>
    simp only [insertEntry]
    split
    · rename_i h
      subst h
      simp
    · rw [List.map_cons, List.mem_cons, ih]
      simp only [List.map_cons, List.mem_cons]
      exact or_left_comm

theorem nodup_insertEntry (name type : String) {entries : List (String × String)}
    (h : (entries.map Prod.fst).Nodup) :
    ((insertEntry name type entries).map Prod.fst).Nodup := by
  induction entries with
  | nil => simp [insertEntry]
  | cons entry rest ih =>
    simp only [List.map_cons, List.nodup_cons] at h
    simp only [insertEntry]
    split
    · rename_i he
      subst he
      simpa using h
    · rename_i he
      simp only [List.map_cons, List.nodup_cons]
      exact ⟨fun hm => (mem_keys_insertEntry.1 hm).elim he h.1, ih h.2⟩

/-- A later type of the same column replaces an earlier one. -/
def insert (types : ColumnTypes) (name type : String) : ColumnTypes :=
  ⟨insertEntry name type types.entries, nodup_insertEntry name type types.distinct⟩

def ofList (entries : List (String × String)) : ColumnTypes :=
  entries.foldl (fun types entry => types.insert entry.1 entry.2) empty

def find? (types : ColumnTypes) (name : String) : Option String :=
  (types.entries.find? fun entry => entry.1 == name).map Prod.snd

end ColumnTypes

end SqlDialects
