import SqlDialects.Error
import SqlDialects.Text.Blank
import SqlDialects.Text.Case

/-! The words for sizes and for referential actions, in letters of either case. -/

namespace SqlDialects

namespace SizeClass

def ofName (name : String) : Except Error SizeClass :=
  match named.find? fun entry => entry.1 == Text.lower name with
  | some entry => .ok entry.2
  | none => .error (.invalid (.unknownSize (Text.lower name)))

end SizeClass

namespace ReferentialAction

/-- The name without blanks around it, in upper case and with blanks for underscores. -/
def normalize (name : String) : String :=
  Text.upper (String.ofList
    ((Text.trim name.toList).map fun c => if c = '_' then ' ' else c))

def ofName (name : String) : Except Error ReferentialAction :=
  match all.find? fun action => action.sql == normalize name with
  | some action => .ok action
  | none => .error (.invalid (.unknownAction name))

end ReferentialAction

end SqlDialects
