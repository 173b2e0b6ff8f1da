import SqlDialects.Toml.Basic
import SqlDialects.Value.Timestamp

/-! The numbers and dates of TOML. A number or a date is one word, but for a blank that may stand
between a date and a time. -/

namespace SqlDialects.Toml

open Text

/-- The digits of a run in which single underscores may stand between digits. -/
def ungroup? (isDigit : Char → Bool) : List Char → Option (List Char)
  | [] => none
  | [c] => if isDigit c then some [c] else none
  | c :: '_' :: rest => if isDigit c then (ungroup? isDigit rest).map (c :: ·) else none
  | c :: d :: rest => if isDigit c then (ungroup? isDigit (d :: rest)).map (c :: ·) else none

/-- A sign, if there is one, and the text after it. -/
def splitSign : List Char → Bool × List Char
  | '-' :: rest => (true, rest)
  | '+' :: rest => (false, rest)
  | text => (false, text)

/-- The digits of a decimal integer, which has no leading zero. -/
def decimalDigits? (text : List Char) : Option (List Char) := do
  match ← ungroup? Char.isDigit text with
  | '0' :: _ :: _ => none
  | digits => some digits

/-- An integer of 64 bits. -/
def within64? (n : Int) : Option Toml :=
  if Int64.minValue.toInt ≤ n ∧ n ≤ Int64.maxValue.toInt then some (.int n) else none

/-- Digits to a base that is given by a mark in front. -/
def basedInteger? (base : Nat) (text : List Char) : Option Toml := do
  let isDigit (c : Char) : Bool := (hexDigit? c).any (· < base)
  let digits ← ungroup? isDigit text
  within64? (digits.foldl (fun n c => base * n + (hexDigit? c).getD 0) 0 : Nat)

def integer? : List Char → Option Toml
  | '0' :: 'x' :: rest => basedInteger? 16 rest
  | '0' :: 'o' :: rest => basedInteger? 8 rest
  | '0' :: 'b' :: rest => basedInteger? 2 rest
  | text => do
    let (negative, text) := splitSign text
    let n : Int := decimalValue (← decimalDigits? text)
    within64? (if negative then -n else n)

/-- Whether a decimal with these digits and exponent rounds to no finite double. -/
def overflows (digits : List Char) (exponent : Int) : Bool :=
  let n := decimalValue digits
  let limit := Nat.pow 2 1024 - Nat.pow 2 970
  match exponent with
  | .negSucc e => limit ≤ n / Nat.pow 10 (min (e + 1) digits.length)
  | .ofNat e => n != 0 && (400 < e || limit ≤ n * Nat.pow 10 e)

/-- The exponent of a float after its letter. -/
def exponent? (text : List Char) : Option Int := do
  let (negative, text) := splitSign text
  let n : Int := decimalValue (← ungroup? Char.isDigit text)
  return if negative then -n else n

def isExponentMark (c : Char) : Bool := c = 'e' || c = 'E'

/-- A float: an integer part, and a fraction or an exponent or both. A positive one beyond the
doubles is refused. -/
def float? (text : List Char) : Option Toml := do
  let (negative, text) := splitSign text
  if text = "inf".toList ∨ text = "nan".toList then
    return .float
  let (mantissa, scale) := text.span fun c => !isExponentMark c
  let (whole, fraction) := mantissa.span (· != '.')
  let whole ← decimalDigits? whole
  let places ←
    match fraction with
    | [] => some []
    | _ :: rest => ungroup? Char.isDigit rest
  let exponent ←
    match scale with
    | [] => some 0
    | _ :: rest => exponent? rest
  if fraction.isEmpty ∧ scale.isEmpty then none
  else if !negative ∧ overflows (whole ++ places) (exponent - places.length) then none
  else some .float

def twoDigits? (a b : Char) : Option Nat :=
  if a.isDigit ∧ b.isDigit then some (decimalValue [a, b]) else none

/-- A date, and the text after it. -/
def scanDate : List Char → Option (Unit × List Char)
  | a :: b :: c :: d :: '-' :: e :: f :: '-' :: g :: h :: rest => do
    let century ← twoDigits? a b
    let year ← twoDigits? c d
    let month ← twoDigits? e f
    let day ← twoDigits? g h
    let year := 100 * century + year
    if 1 ≤ month ∧ month ≤ 12 ∧ 1 ≤ day ∧ day ≤ Calendar.daysInMonth year month then
      some ((), rest)
    else
      none
  | _ => none

/-- Hours and minutes, and the text after them. -/
def scanMinutes : List Char → Option (Unit × List Char)
  | a :: b :: ':' :: c :: d :: rest => do
    let hour ← twoDigits? a b
    let minute ← twoDigits? c d
    if hour < 24 ∧ minute < 60 then some ((), rest) else none
  | _ => none

/-- A time of day, and the text after it. -/
def scanTime (text : List Char) : Option (Unit × List Char) := do
  let (_, rest) ← scanMinutes text
  match rest with
  | ':' :: a :: b :: rest =>
    let second ← twoDigits? a b
    if 60 < second then none
    else
      match rest with
      | '.' :: rest =>
        match spanDigits rest with
        | ([], _) => none
        | (_, rest) => some ((), rest)
      | rest => some ((), rest)
  | _ => none

/-- Whether a text is an offset from universal time, or nothing. -/
def isOffset : List Char → Bool
  | [] => true
  | ['Z'] => true
  | ['z'] => true
  | '+' :: rest => (scanMinutes rest).any fun (_, rest) => rest.isEmpty
  | '-' :: rest => (scanMinutes rest).any fun (_, rest) => rest.isEmpty
  | _ => false

/-- A date, a time, or a date and a time. -/
def date? (text : List Char) : Option Toml :=
  match scanDate text with
  | some (_, []) => some .date
  | some (_, mark :: rest) => do
    if mark = 'T' ∨ mark = 't' ∨ mark = ' ' then
      let (_, rest) ← scanTime rest
      if isOffset rest then some .date else none
    else
      none
  | none => do
    let (_, rest) ← scanTime text
    if rest.isEmpty then some .date else none

/-- The characters of numbers and dates. -/
def isWordChar (c : Char) : Bool :=
  c.isAlphanum || c = '_' || c = '+' || c = '-' || c = '.' || c = ':'

/-- The word at the front of a text, and what follows it. After a date a blank and a digit lead on
to the time. -/
def scanWord (text : List Char) : List Char × List Char :=
  let (word, rest) := text.span isWordChar
  match rest with
  | ' ' :: c :: after =>
    if c.isDigit ∧ (scanDate word).any (fun (_, rest) => rest.isEmpty) then
      let (time, rest) := (c :: after).span isWordChar
      (word ++ ' ' :: time, rest)
    else
      (word, rest)
  | rest => (word, rest)

/-- A number or a date, and the text after it. -/
def scanNumber (text : List Char) : Option (Toml × List Char) := do
  let (word, rest) := scanWord text
  let value ← date? word <|> float? word <|> integer? word
  return (value, rest)

end SqlDialects.Toml
