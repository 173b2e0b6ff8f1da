import SqlDialects.Toml.Number
import SqlDialects.Toml.Text

/-! Reading TOML documents line by line. A header says which table the next keys belong to. -/

namespace SqlDialects.Toml

/-- What was scanned, and the text after it. -/
abbrev Scan (α : Type) := List Char → Option (α × List Char)

/-- The text after blanks and a comment. -/
def skipComment (text : List Char) : List Char :=
  match text.dropWhile isLineBlank with
  | '#' :: rest => rest.dropWhile isPlain
  | rest => rest

/-- The text after a line end, with blanks and a comment allowed before it. -/
def endLine (text : List Char) : Option (List Char) :=
  match skipComment text with
  | [] => some []
  | '\n' :: rest => some rest
  | _ => none

/-- The text after all blanks, comments and line ends; `fuel` bounds the number of lines. -/
def skipLines : Nat → List Char → List Char
  | 0, text => text
  | fuel + 1, text =>
    match skipComment text with
    | '\n' :: rest => skipLines fuel rest
    | rest => rest

/-- The elements of an array after its opening bracket; `fuel` bounds their number. A comma may
stand after the last. -/
def scanElements (scan : Scan Toml) : Nat → Scan (List Toml)
  | 0, _ => none
  | fuel + 1, text =>
    match skipLines fuel text with
    | ']' :: rest => some ([], rest)
    | text => do
      let (value, rest) ← scan text
      match skipLines fuel rest with
      | ',' :: rest =>
        let (values, rest) ← scanElements scan fuel rest
        return (value :: values, rest)
      | ']' :: rest => return ([value], rest)
      | _ => none

/-- A key and its value. -/
def scanEntry (scan : Scan Toml) : Scan (List String × Toml) := fun text => do
  let (key, rest) ← scanKey maxKeyParts text
  match rest with
  | '=' :: rest =>
    let (value, rest) ← scan (rest.dropWhile isLineBlank)
    return ((key, value), rest)
  | _ => none

/-- Adds the value of a key that may be dotted. -/
def addEntry (origin : TableOrigin) (entries : Entries) (key : List String) (value : Toml) :
    Option Entries := do
  entries.addValue origin key.dropLast (← key.getLast?) value

/-- The entries of an inline table from its first entry on; `fuel` bounds their number. -/
def scanEntries (scan : Scan Toml) : Nat → Entries → Scan Entries
  | 0, _, _ => none
  | fuel + 1, entries, text => do
    let ((key, value), rest) ← scanEntry scan text
    let entries ← addEntry .inline entries key value
    match rest.dropWhile isLineBlank with
    | ',' :: rest => scanEntries scan fuel entries rest
    | '\x7d' :: rest => return (entries, rest)
    | _ => none

/-- The entries of an inline table after its opening brace. It stands on one line. -/
def scanInline (scan : Scan Toml) : Scan Entries := fun text =>
  match text.dropWhile isLineBlank with
  | '\x7d' :: rest => some ([], rest)
  | text => scanEntries scan (text.length + 1) [] text

/-- The limit on arrays and inline tables within each other, with one level for the scalars. -/
def maxDepth : Nat := 80

/-- A value, with at most `depth - 1` containers within each other. -/
def scanValue : Nat → Scan Toml
  | 0, _ => none
  | depth + 1, text =>
    match text with
    | 't' :: 'r' :: 'u' :: 'e' :: rest => some (.bool true, rest)
    | 'f' :: 'a' :: 'l' :: 's' :: 'e' :: rest => some (.bool false, rest)
    | '[' :: rest =>
      if depth = 0 then none
      else do
        let (elements, rest) ← scanElements (scanValue depth) (rest.length + 1) rest
        return (.array elements, rest)
    | '\x7b' :: rest =>
      if depth = 0 then none
      else do
        let (entries, rest) ← scanInline (scanValue depth) rest
        return (.table .inline entries, rest)
    | '"' :: _ => do
      let (content, rest) ← scanString text
      return (.string (String.ofList content), rest)
    | '\'' :: _ => do
      let (content, rest) ← scanString text
      return (.string (String.ofList content), rest)
    | _ => scanNumber text

/-- A document that is read as far as here. -/
structure Document where
  entries : Entries := []
  /-- The path of the last header. -/
  path : List String := []

namespace Document

/-- The document with the table of a header opened by `openKey` at the end of a path. -/
def openAt (document : Document) (openKey : Entries → String → Option Entries)
    (key : List String) : Option Document := do
  let last ← key.getLast?
  let entries ←
    document.entries.changeAt false (fun _ entries => openKey entries last) .header key.dropLast
  return ⟨entries, key⟩

/-- The document with a value added to the table of the last header. -/
def add (document : Document) (key : List String) (value : Toml) : Option Document := do
  let entries ←
    document.entries.changeAt false (fun origin entries => addEntry origin entries key value)
      .header document.path
  return { document with entries := entries }

/-- The document after one more line, which has a header or a key, and the text after it. -/
def readLine (document : Document) (text : List Char) : Option (Document × List Char) := do
  match text with
  | '[' :: '[' :: rest =>
    let (key, rest) ← scanKey maxKeyParts rest
    match rest with
    | ']' :: ']' :: rest => return (← document.openAt Entries.openElement key, ← endLine rest)
    | _ => none
  | '[' :: rest =>
    let (key, rest) ← scanKey maxKeyParts rest
    match rest with
    | ']' :: rest => return (← document.openAt Entries.openTable key, ← endLine rest)
    | _ => none
  | text =>
    let ((key, value), rest) ← scanEntry (scanValue maxDepth) text
    return (← document.add key value, ← endLine rest)

/-- The document of the lines of a text; `fuel` bounds their number. -/
def readLines : Nat → Document → List Char → Option Document
  | 0, _, _ => none
  | fuel + 1, document, text =>
    match skipLines (fuel + 1) text with
    | [] => some document
    | text => do
      let (document, rest) ← document.readLine text
      readLines fuel document rest

end Document

/-- Line feeds for the line ends of two characters. -/
def unifyLineEnds : List Char → List Char
  | [] => []
  | '\r' :: '\n' :: rest => '\n' :: unifyLineEnds rest
  | c :: rest => c :: unifyLineEnds rest

/-- The text without a byte order mark. -/
def dropMark : List Char → List Char
  | '\uFEFF' :: rest => rest
  | text => text

/-- The entries of a document. -/
def ofText? (text : String) : Option Entries := do
  let text := unifyLineEnds (dropMark text.toList)
  return (← Document.readLines (text.length + 1) {} text).entries

end SqlDialects.Toml
