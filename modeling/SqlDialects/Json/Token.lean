import SqlDialects.Json.Basic
import SqlDialects.Text.Digits

/-! The tokens of JSON text, and the cutting of a text into tokens. -/

namespace SqlDialects.Json

inductive Token where
  | openArray
  | closeArray
  | openObject
  | closeObject
  | comma
  | colon
  /-- A literal or a number; no containers and no strings. -/
  | scalar (value : Json)
  | string (value : String)

namespace Token

open Text

/-- The number that four hexadecimal digits denote. -/
def hex4? (a b c d : Char) : Option Nat := do
  let a ← hexDigit? a
  let b ← hexDigit? b
  let c ← hexDigit? c
  let d ← hexDigit? d
  return ((a * 16 + b) * 16 + c) * 16 + d

/-- The character of an escape of one letter. -/
def shortEscape? : Char → Option Char
  | '"' => some '"'
  | '\\' => some '\\'
  | '/' => some '/'
  | 'b' => some '\x08'
  | 'f' => some '\x0c'
  | 'n' => some '\n'
  | 'r' => some '\r'
  | 't' => some '\t'
  | _ => none

/-- The content of a string up to its closing quote, and the text after that. Control characters
must be escaped, and surrogates come in pairs. -/
def scanString : List Char → Option (List Char × List Char)
  | [] => none
  | '"' :: rest => some ([], rest)
  | '\\' :: 'u' :: a :: b :: c :: d :: rest => do
    let unit ← hex4? a b c d
    if 0xD800 ≤ unit ∧ unit < 0xDC00 then
      match rest with
      | '\\' :: 'u' :: e :: f :: g :: h :: rest =>
        let low ← hex4? e f g h
        if 0xDC00 ≤ low ∧ low < 0xE000 then
          let (content, after) ← scanString rest
          return (Char.ofNat (0x10000 + (unit - 0xD800) * 0x400 + (low - 0xDC00)) :: content, after)
        else
          none
      | _ => none
    else if 0xDC00 ≤ unit ∧ unit < 0xE000 then
      none
    else
      let (content, after) ← scanString rest
      return (Char.ofNat unit :: content, after)
  | '\\' :: c :: rest => do
    let escaped ← shortEscape? c
    let (content, after) ← scanString rest
    return (escaped :: content, after)
  | c :: rest =>
    if c.toNat < 0x20 ∨ c = '\\' then none
    else do
      let (content, after) ← scanString rest
      return (c :: content, after)

/-- The greatest significand that is kept. -/
def significandLimit : Nat := UInt64.size - 1

/-- Digits appended to a significand as long as it stays within the limit, and how many were. -/
def accumulate (significand : Nat) : List Char → Nat × Nat
  | [] => (significand, 0)
  | c :: rest =>
    let next := significand * 10 + (digit? c).getD 0
    if significandLimit < next then
      (significand, 0)
    else
      let (result, count) := accumulate next rest
      (result, count + 1)

/-- A number with a fraction or an exponent. Digits past the limit of the significand are dropped:
those before the point count in the exponent. -/
def doubleOfParts? (negative : Bool) (whole fraction : List Char) (exponent : Int) :
    Option Double :=
  let (significand, taken) := accumulate 0 whole
  let (significand, places) := accumulate significand fraction
  Double.ofScientific? negative significand
    ((whole.length - taken : Nat) - (places : Int) + exponent)

/-- A number without fraction and exponent: an integer if it has 64 bits, else a double. The
negative zero is a double. -/
def wholeNumber? (negative : Bool) (digits : List Char) : Option Json :=
  let n := decimalValue digits
  if negative then
    if 0 < n ∧ n ≤ Nat.pow 2 63 then some (.int (-n))
    else (doubleOfParts? true digits [] 0).map .double
  else if n ≤ significandLimit then
    some (.int n)
  else
    (doubleOfParts? false digits [] 0).map .double

/-- The exponent after its letter: an optional sign and at least one digit. -/
def scanExponent (text : List Char) : Option (Int × List Char) :=
  let (negative, text) :=
    match text with
    | '+' :: rest => (false, rest)
    | '-' :: rest => (true, rest)
    | _ => (false, text)
  match spanDigits text with
  | ([], _) => none
  | (digits, rest) =>
    let n := decimalValue digits
    some (if negative then -(n : Int) else n, rest)

/-- The digits before the point: a single zero, or digits that do not start with zero. -/
def scanWhole : List Char → Option (List Char × List Char)
  | '0' :: rest => some (['0'], rest)
  | text =>
    match spanDigits text with
    | ([], _) => none
    | found => some found

/-- The fraction, if the text goes on with a point; it has at least one digit. -/
def scanFraction : List Char → Option (Option (List Char) × List Char)
  | '.' :: text =>
    match spanDigits text with
    | ([], _) => none
    | (digits, rest) => some (some digits, rest)
  | text => some (none, text)

/-- A number after its sign, and the text after it. -/
def scanNumber (negative : Bool) (text : List Char) : Option (Json × List Char) := do
  let (whole, text) ← scanWhole text
  let (fraction, text) ← scanFraction text
  let (exponent, text) ←
    match text with
    | c :: rest =>
      if c = 'e' ∨ c = 'E' then (scanExponent rest).map fun (n, rest) => (some n, rest)
      else some (none, text)
    | [] => some (none, text)
  match fraction, exponent with
  | none, none =>
    let value ← wholeNumber? negative whole
    return (value, text)
  | _, _ =>
    let value ← doubleOfParts? negative whole (fraction.getD []) (exponent.getD 0)
    return (.double value, text)

/-- The first token of a text that does not start with white space, and the text after it. -/
def scan : List Char → Option (Token × List Char)
  | '[' :: rest => some (.openArray, rest)
  | ']' :: rest => some (.closeArray, rest)
  | '\x7b' :: rest => some (.openObject, rest)
  | '\x7d' :: rest => some (.closeObject, rest)
  | ',' :: rest => some (.comma, rest)
  | ':' :: rest => some (.colon, rest)
  | 'n' :: 'u' :: 'l' :: 'l' :: rest => some (.scalar .null, rest)
  | 't' :: 'r' :: 'u' :: 'e' :: rest => some (.scalar (.bool true), rest)
  | 'f' :: 'a' :: 'l' :: 's' :: 'e' :: rest => some (.scalar (.bool false), rest)
  | '"' :: rest => (scanString rest).map fun (s, rest) => (.string (String.ofList s), rest)
  | '-' :: rest => (scanNumber true rest).map fun (n, rest) => (.scalar n, rest)
  | text => (scanNumber false text).map fun (n, rest) => (.scalar n, rest)

/-- The four characters that may stand between tokens. -/
def isSpace (c : Char) : Bool := c = ' ' || c = '\n' || c = '\t' || c = '\r'

/-- The tokens of a text; every step takes at least one character, so its length is enough fuel. -/
def scanAll : Nat → List Char → Option (List Token)
  | _, [] => some []
  | 0, _ :: _ => none
  | fuel + 1, c :: rest =>
    if isSpace c then
      scanAll fuel rest
    else do
      let (token, rest) ← scan (c :: rest)
      let tokens ← scanAll fuel rest
      return token :: tokens

/-- The tokens of a text, or `none` if some part of it is no token. -/
def ofText? (text : List Char) : Option (List Token) := scanAll text.length text

end Token

end SqlDialects.Json
