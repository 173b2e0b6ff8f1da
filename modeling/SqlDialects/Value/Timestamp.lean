import SqlDialects.Text.Reader

/-! Calendar dates with a time of day and no time zone: their texts and the reading of them. -/

namespace SqlDialects

namespace Calendar

def isLeapYear (year : Int) : Bool :=
  year % 4 == 0 && (year % 100 != 0 || year % 400 == 0)

/-- The number of days of a month of the Gregorian calendar, run back before its start. -/
def daysInMonth (year : Int) (month : Nat) : Nat :=
  match month with
  | 2 => if isLeapYear year then 29 else 28
  | 4 | 6 | 9 | 11 => 30
  | _ => 31

end Calendar

/-- A date and time to the nanosecond. Second 60 is a leap second, allowed in every minute. -/
structure Timestamp where
  year : Int
  month : Nat
  day : Nat
  hour : Nat
  minute : Nat
  second : Nat
  nanosecond : Nat
  year_bounds : -262143 ≤ year ∧ year ≤ 262142
  month_bounds : 1 ≤ month ∧ month ≤ 12
  day_bounds : 1 ≤ day ∧ day ≤ Calendar.daysInMonth year month
  time_bounds : hour < 24 ∧ minute < 60 ∧ second ≤ 60 ∧ nanosecond < 1000000000
deriving DecidableEq, Repr

namespace Timestamp

open Text

/-- The timestamp of these parts, if they are a date and a time. -/
def make? (year : Int) (month day hour minute second nanosecond : Nat) : Option Timestamp :=
  if h : (-262143 ≤ year ∧ year ≤ 262142) ∧ (1 ≤ month ∧ month ≤ 12) ∧
      (1 ≤ day ∧ day ≤ Calendar.daysInMonth year month) ∧
      (hour < 24 ∧ minute < 60 ∧ second ≤ 60 ∧ nanosecond < 1000000000) then
    some ⟨year, month, day, hour, minute, second, nanosecond, h.1, h.2.1, h.2.2.1, h.2.2.2⟩
  else
    none

/-- Four digits for the years 0 to 9999; a sign and at least four digits for all others. -/
def yearText (year : Int) : List Char :=
  let digits := paddedDecimal 4 year.natAbs
  if 0 ≤ year ∧ year ≤ 9999 then digits
  else (if year < 0 then '-' else '+') :: digits

def dateText (t : Timestamp) : List Char :=
  yearText t.year ++ '-' :: paddedDecimal 2 t.month ++ '-' :: paddedDecimal 2 t.day

/-- Hours, minutes and whole seconds. -/
def clockText (t : Timestamp) : List Char :=
  paddedDecimal 2 t.hour ++ ':' :: paddedDecimal 2 t.minute ++ ':' :: paddedDecimal 2 t.second

/-- No fraction, or the fewest of three, six and nine digits that are exact. -/
def fractionText (t : Timestamp) : List Char :=
  if t.nanosecond = 0 then []
  else if t.nanosecond % 1000000 = 0 then '.' :: paddedDecimal 3 (t.nanosecond / 1000000)
  else if t.nanosecond % 1000 = 0 then '.' :: paddedDecimal 6 (t.nanosecond / 1000)
  else '.' :: paddedDecimal 9 t.nanosecond

/-- `2024-01-02 03:04:05`: the fraction is dropped. -/
def sqlText (t : Timestamp) : List Char := dateText t ++ ' ' :: clockText t

/-- `2024-01-02T03:04:05.678`: the exact text. -/
def isoText (t : Timestamp) : List Char := dateText t ++ 'T' :: clockText t ++ fractionText t

/-- A year: four digits at most without a sign, any number of digits after one. -/
def readYear : Reader Int := do
  if ← Reader.optionally '-' then
    return -(decimalValue (← Reader.allDigits) : Int)
  else if ← Reader.optionally '+' then
    return (decimalValue (← Reader.allDigits) : Int)
  else
    return (decimalValue (← Reader.digits 4) : Int)

/-- A number of one or two digits, with white space in front of it. -/
def readField : Reader Nat := do
  Reader.skipBlanks
  return decimalValue (← Reader.digits 2)

/-- White space and the mark `c`. -/
def readMark (c : Char) : Reader Unit := do
  Reader.skipBlanks
  Reader.exactly c

/-- The nanoseconds of a fraction, of which nine digits count. -/
def readFraction : Reader Nat := do
  if ← Reader.optionally '.' then
    let digits ← Reader.digits 9
    Reader.skipDigits
    return decimalValue digits * Nat.pow 10 (9 - digits.length)
  else
    return 0

/-- The form of `isoText`, with fewer digits and white space allowed around the parts. -/
def reader : Reader Timestamp := do
  Reader.skipBlanks
  let year ← readYear
  readMark '-'
  let month ← readField
  readMark '-'
  let day ← readField
  readMark 'T'
  let hour ← readField
  readMark ':'
  let minute ← readField
  readMark ':'
  let second ← readField
  let nanosecond ← readFraction
  Reader.skipBlanks
  make? year month day hour minute second nanosecond

def ofText? (text : List Char) : Option Timestamp := reader.readAll text

end Timestamp

end SqlDialects
