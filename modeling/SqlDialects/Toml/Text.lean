import SqlDialects.Text.Reader

/-! The strings and keys of TOML. A text has line feeds for its line ends. -/

namespace SqlDialects.Toml

open Text

/-- The characters that stand for themselves in strings of one line and in comments: all but
controls, of which the tab is allowed. -/
def isPlain (c : Char) : Bool := c = '\t' || (0x20 ≤ c.toNat && c.toNat != 0x7F)

def isLineBlank (c : Char) : Bool := c = ' ' || c = '\t'

/-- The character that hexadecimal digits denote. -/
def hexChar? (digits : List Char) : Option Char := do
  let digits ← digits.mapM hexDigit?
  let n := digits.foldl (fun n digit => 16 * n + digit) 0
  if n < 0xD800 ∨ (0xDFFF < n ∧ n < 0x110000) then some (Char.ofNat n) else none

/-- The character of an escape of one letter. -/
def escaped? : Char → Option Char
  | 'b' => some '\x08'
  | 't' => some '\t'
  | 'n' => some '\n'
  | 'f' => some '\x0c'
  | 'r' => some '\r'
  | '"' => some '"'
  | '\\' => some '\\'
  | _ => none

/-- What was read and what follows it, with one more character in front. -/
def prepend (c : Char) (result : Option (List Char × List Char)) :
    Option (List Char × List Char) :=
  result.map fun (content, rest) => (c :: content, rest)

/-- A string of one line with escapes, after its opening quote. -/
def scanBasic : List Char → Option (List Char × List Char)
  | [] => none
  | '"' :: rest => some ([], rest)
  | '\\' :: 'u' :: a :: b :: c :: d :: rest => do
    prepend (← hexChar? [a, b, c, d]) (scanBasic rest)
  | '\\' :: 'U' :: a :: b :: c :: d :: e :: f :: g :: h :: rest => do
    prepend (← hexChar? [a, b, c, d, e, f, g, h]) (scanBasic rest)
  | '\\' :: c :: rest => do
    prepend (← escaped? c) (scanBasic rest)
  | c :: rest => if isPlain c then prepend c (scanBasic rest) else none

/-- A string of one line that is taken literally, after its opening quote. -/
def scanLiteral : List Char → Option (List Char × List Char)
  | [] => none
  | '\'' :: rest => some ([], rest)
  | c :: rest => if isPlain c then prepend c (scanLiteral rest) else none

/-- Whether nothing but blanks is left of the line. -/
def atLineEnd (text : List Char) : Bool := (text.dropWhile isLineBlank).head? == some '\n'

/-- A string of several lines with escapes, after its opening quotes. A backslash at the end of a
line folds away all blanks and line ends up to the next character; `folding` says that this is
going on. Up to two quotes may stand before the closing ones. -/
def scanLong (folding : Bool) : List Char → Option (List Char × List Char)
  | [] => none
  | '"' :: '"' :: '"' :: '"' :: '"' :: rest => some (['"', '"'], rest)
  | '"' :: '"' :: '"' :: '"' :: rest => some (['"'], rest)
  | '"' :: '"' :: '"' :: rest => some ([], rest)
  | '\\' :: 'u' :: a :: b :: c :: d :: rest => do
    prepend (← hexChar? [a, b, c, d]) (scanLong false rest)
  | '\\' :: 'U' :: a :: b :: c :: d :: e :: f :: g :: h :: rest => do
    prepend (← hexChar? [a, b, c, d, e, f, g, h]) (scanLong false rest)
  | '\\' :: c :: rest =>
    if atLineEnd (c :: rest) then scanLong true rest
    else do prepend (← escaped? c) (scanLong false rest)
  | c :: rest =>
    if folding ∧ (isLineBlank c ∨ c = '\n') then scanLong true rest
    else if isPlain c ∨ c = '\n' then prepend c (scanLong false rest)
    else none

/-- A string of several lines that is taken literally, after its opening quotes. -/
def scanLongLiteral : List Char → Option (List Char × List Char)
  | [] => none
  | '\'' :: '\'' :: '\'' :: '\'' :: '\'' :: rest => some (['\'', '\''], rest)
  | '\'' :: '\'' :: '\'' :: '\'' :: rest => some (['\''], rest)
  | '\'' :: '\'' :: '\'' :: rest => some ([], rest)
  | c :: rest => if isPlain c ∨ c = '\n' then prepend c (scanLongLiteral rest) else none

/-- The text after a line end directly after opening quotes, which is no part of the string. -/
def dropFirstLineEnd : List Char → List Char
  | '\n' :: rest => rest
  | text => text

/-- A string in one of the four forms. -/
def scanString : List Char → Option (List Char × List Char)
  | '"' :: '"' :: '"' :: rest => scanLong false (dropFirstLineEnd rest)
  | '"' :: rest => scanBasic rest
  | '\'' :: '\'' :: '\'' :: rest => scanLongLiteral (dropFirstLineEnd rest)
  | '\'' :: rest => scanLiteral rest
  | _ => none

def isBareKeyChar (c : Char) : Bool := c.isAlphanum || c = '_' || c = '-'

/-- A part of a key: bare, or a string of one line. -/
def scanKeyPart : List Char → Option (List Char × List Char)
  | '"' :: rest => scanBasic rest
  | '\'' :: rest => scanLiteral rest
  | text =>
    match text.span isBareKeyChar with
    | ([], _) => none
    | found => some found

/-- The greatest number of parts of a key. -/
def maxKeyParts : Nat := 79

/-- A key of at most `count` parts with points between them, and with blanks around the parts. -/
def scanKey : Nat → List Char → Option (List String × List Char)
  | 0, _ => none
  | count + 1, text => do
    let (part, rest) ← scanKeyPart (text.dropWhile isLineBlank)
    match rest.dropWhile isLineBlank with
    | '.' :: rest =>
      let (parts, rest) ← scanKey count rest
      return (String.ofList part :: parts, rest)
    | rest => return ([String.ofList part], rest)

end SqlDialects.Toml
