import SqlDialects.Text.Blank
import SqlDialects.Text.Digits

/-! Readers of characters: a reader takes what it needs off the front of the text, or fails. -/

namespace SqlDialects.Text

/-- A reader consumes a front part of the text and gives a value. -/
abbrev Reader := StateT (List Char) Option

namespace Reader

/-- The value that the reader gives if it consumes the whole text. -/
def readAll (reader : Reader α) (text : List Char) : Option α :=
  match reader.run text with
  | some (value, []) => some value
  | _ => none

def skipBlanks : Reader Unit := fun text => some ((), trimStart text)

/-- The character `c` and no other. -/
def exactly (c : Char) : Reader Unit
  | [] => none
  | d :: rest => if d = c then some ((), rest) else none

/-- Whether the next character is `c`, which is then consumed. -/
def optionally (c : Char) : Reader Bool
  | [] => some (false, [])
  | d :: rest => if d = c then some (true, rest) else some (false, d :: rest)

/-- The digits at the front of the text, at most `width` of them. -/
def takeDigits : Nat → List Char → List Char × List Char
  | 0, text => ([], text)
  | _ + 1, [] => ([], [])
  | width + 1, c :: rest =>
    if c.isDigit then
      let (digits, after) := takeDigits width rest
      (c :: digits, after)
    else
      ([], c :: rest)

/-- One to `width` decimal digits. -/
def digits (width : Nat) : Reader (List Char) := fun text =>
  match takeDigits width text with
  | ([], _) => none
  | (found, rest) => some (found, rest)

/-- At least one decimal digit, and all that follow. -/
def allDigits : Reader (List Char) := fun text => digits text.length text

/-- Any number of decimal digits, ignored. -/
def skipDigits : Reader Unit := fun text => some ((), text.dropWhile Char.isDigit)

end Reader

end SqlDialects.Text
