import SqlDialects.Dialect
import SqlDialects.Text.Separated

/-! Identifiers in SQL text. A dotted name is a path of parts; a part is written bare unless the
dialect would read it differently or not at all, and else between delimiters. -/

namespace SqlDialects.Identifier

/-- The words that are quoted in every dialect, in lower case. -/
def reservedWords : List String := [
  "order", "group", "user", "table", "select", "from", "where", "join", "left", "right", "inner",
  "outer", "full", "cross", "on", "and", "or", "not", "null", "true", "false", "limit", "offset",
  "as", "in", "is", "like", "between", "having", "union", "all", "distinct", "case", "when", "then",
  "else", "end", "create", "alter", "drop", "insert", "update", "delete", "into", "values", "set",
  "index", "key", "primary", "foreign", "references", "default", "constraint", "check", "desc",
  "asc", "by"]

/-- The opening and the closing delimiter of a quoted part. -/
def delimiters : Dialect → Char × Char
  | .mysql => ('\x60', '\x60')
  | .postgres => ('"', '"')
  | .sqlite => ('"', '"')
  | .sqlServer => ('[', ']')

/-- Whether the dialect folds bare identifiers to lower case. -/
def foldsCase : Dialect → Bool
  | .postgres => true
  | _ => false

/-- The ASCII letters and digits and the underscore. -/
def isBareChar (c : Char) : Bool := c.isAlphanum || c = '_'

/-- Reserved words are found in any case. A word with a letter beyond ASCII is none of them and
needs quotes anyway. -/
def isReserved (part : List Char) : Bool :=
  reservedWords.contains (String.ofList (part.map Char.toLower))

def needsQuotes (dialect : Dialect) (part : List Char) : Bool :=
  part.isEmpty || isReserved part || part.any (fun c => !isBareChar c) ||
    part.head?.any Char.isDigit || (foldsCase dialect && part.any Char.isUpper)

/-- A part between delimiters, with the closing delimiter doubled inside. -/
def delimit (dialect : Dialect) (part : List Char) : List Char :=
  let (opening, closing) := delimiters dialect
  opening :: Text.double closing part ++ [closing]

/-- A part of a path. The star is never quoted. -/
def quotePart (dialect : Dialect) (part : List Char) : List Char :=
  if part = ['*'] ∨ needsQuotes dialect part = false then part else delimit dialect part

/-- The text of a dotted name. -/
def quote (dialect : Dialect) (name : String) : String :=
  String.ofList
    (List.intercalate ['.'] ((Text.split '.' name.toList).map (quotePart dialect)))

/-- The texts of several names, separated by commas. -/
def quoteList (dialect : Dialect) (names : List String) : String :=
  Text.join ", " (names.map (quote dialect))

end SqlDialects.Identifier
