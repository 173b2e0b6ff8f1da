import SqlDialects.Text.Combining
import SqlDialects.Text.Unprintable

/-! Texts in double quotes for messages: quotes, backslashes and what cannot be printed on its own
are escaped. -/

namespace SqlDialects.Text

/-- The escape that names the code point in hexadecimal. -/
def codePointEscape (c : Char) : List Char :=
  '\\' :: 'u' :: '\x7b' :: Nat.toDigits 16 c.toNat ++ ['\x7d']

/-- A character inside the quotes. A combining mark would change how the character before it looks,
so it is escaped too. -/
def quotedChar (c : Char) : List Char :=
  if c = '\x00' then ['\\', '0']
  else if c = '\t' then ['\\', 't']
  else if c = '\n' then ['\\', 'n']
  else if c = '\r' then ['\\', 'r']
  else if c = '"' then ['\\', '"']
  else if c = '\\' then ['\\', '\\']
  else if isPrintable c && !isCombining c then [c]
  else codePointEscape c

/-- The quoted text. -/
def quoted (s : String) : String :=
  String.ofList ('"' :: s.toList.flatMap quotedChar ++ ['"'])

end SqlDialects.Text
