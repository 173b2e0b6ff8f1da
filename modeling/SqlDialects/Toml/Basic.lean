import SqlDialects.Text.Digits

/-! TOML values, and adding to tables by the paths of headers and dotted keys. -/

namespace SqlDialects

/-- How a table came about, which settles what may still be added to it. -/
inductive TableOrigin where
  /-- A table in braces, which is complete. -/
  | inline
  /-- The document, or a table with a header of its own. -/
  | header
  /-- A table that only stands on the path of some header. -/
  | path
  /-- A table that stands on the path of a dotted key. -/
  | dotted
deriving DecidableEq, Repr

/-- A value of a document. Of floats and dates no more is kept than that they were there. -/
inductive Toml where
  | string (value : String)
  | int (value : Int)
  | float
  | bool (value : Bool)
  | date
  | array (elements : List Toml)
  | table (origin : TableOrigin) (entries : List (String × Toml))
  /-- An array that headers add tables to. -/
  | tables (elements : List (List (String × Toml)))

namespace Toml

abbrev Entries := List (String × Toml)

namespace Entries

def find? (entries : Entries) (key : String) : Option Toml :=
  (List.find? (fun entry => entry.1 == key) entries).map Prod.snd

/-- The entries with the value of a key that is among them replaced. -/
def replace (entries : Entries) (key : String) (value : Toml) : Entries :=
  entries.map fun entry => if entry.1 = key then (key, value) else entry

/-- The entries with one of a new key added. -/
def addNew (entries : Entries) (key : String) (value : Toml) : Option Entries :=
  if (entries.find? key).isSome then none else some (entries ++ [(key, value)])

/-- Changes the table at the end of a path. Tables that are missing on the way are made. On the
path of a dotted key no table with a header of its own is entered; of an array it is the last table
that is entered. -/
def changeAt (dotted : Bool) (change : TableOrigin → Entries → Option Entries)
    (origin : TableOrigin) (entries : Entries) : List String → Option Entries
  | [] => change origin entries
  | key :: path =>
    match entries.find? key with
    | none => do
      let made : TableOrigin := if dotted then .dotted else .path
      let inner ← changeAt dotted change made [] path
      return entries ++ [(key, .table made inner)]
    | some (.table .inline _) => none
    | some (.table found inner) =>
      if dotted ∧ found = .header then none
      else do
        let inner ← changeAt dotted change found inner path
        return entries.replace key (.table found inner)
    | some (.tables elements) => do
      let last ← elements.getLast?
      let last ← changeAt dotted change .header last path
      return entries.replace key (.tables (elements.dropLast ++ [last]))
    | some _ => none

/-- Adds a value under a dotted key: `path` and then `key`. -/
def addValue (origin : TableOrigin) (entries : Entries) (path : List String) (key : String)
    (value : Toml) : Option Entries :=
  changeAt true
    (fun found entries =>
      if path.isEmpty ∨ found = .dotted then entries.addNew key value else none)
    origin entries path

/-- Gives a table its header. A table that only stood on paths of headers may still get one. -/
def openTable (entries : Entries) (key : String) : Option Entries :=
  match entries.find? key with
  | none => some (entries ++ [(key, .table .header [])])
  | some (.table .path inner) => some (entries.replace key (.table .header inner))
  | some _ => none

/-- Adds a table to an array of tables. -/
def openElement (entries : Entries) (key : String) : Option Entries :=
  match entries.find? key with
  | none => some (entries ++ [(key, .tables [[]])])
  | some (.tables elements) => some (entries.replace key (.tables (elements ++ [[]])))
  | some _ => none

end Entries

end Toml

end SqlDialects
