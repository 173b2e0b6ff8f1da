import SqlDialects.Error
import SqlDialects.Text.Case

/-! Choosing a dialect by its name or by the address of a database. -/

namespace SqlDialects.Dialect

/-- The dialect of this name; aliases and letters of either case are accepted. -/
def ofName (name : String) : Except Error Dialect :=
  match ofAlias? (Text.lower name) with
  | some dialect => .ok dialect
  | none => .error (.invalid (.unknownDialect (Text.lower name)))

/-- The scheme of a url: the text before the first colon, or all of it. -/
def scheme (url : String) : String := String.ofList (url.toList.takeWhile (· != ':'))

/-- The dialect of the database at this url, by the scheme. -/
def ofUrl (url : String) : Except Error Dialect :=
  match ofAlias? (Text.lower (scheme url)) with
  | some dialect => .ok dialect
  | none => .error (.config (.unknownScheme (scheme url)))

end SqlDialects.Dialect
