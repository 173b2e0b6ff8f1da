/-! ASCII letters in lower and upper case. All other characters stay as they are. -/

namespace SqlDialects.Text

def lower (s : String) : String := String.ofList (s.toList.map Char.toLower)

def upper (s : String) : String := String.ofList (s.toList.map Char.toUpper)

end SqlDialects.Text
