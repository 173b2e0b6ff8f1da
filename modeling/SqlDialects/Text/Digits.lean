/-! Numbers as digits: decimal digits of a fixed width, bytes as hexadecimal pairs, and reading
runs of decimal digits. -/

namespace SqlDialects.Text

/-- The digit `n % 16`, in capitals. -/
def hexDigit (n : Nat) : Char :=
  "0123456789ABCDEF".toList.getD (n % 16) '0'

/-- The two hexadecimal digits of a byte. -/
def hexPair (byte : UInt8) : List Char :=
  [hexDigit (byte.toNat / 16), hexDigit byte.toNat]

/-- The decimal digits of `n`, with zeros in front up to `width` digits. -/
def paddedDecimal (width n : Nat) : List Char :=
  let digits := Nat.toDigits 10 n
  List.replicate (width - digits.length) '0' ++ digits

/-- The value of an ASCII decimal digit. -/
def digit? (c : Char) : Option Nat :=
  if c.isDigit then some (c.toNat - '0'.toNat) else none

/-- The value of an ASCII hexadecimal digit of either case. -/
def hexDigit? (c : Char) : Option Nat :=
  if c.isDigit then some (c.toNat - '0'.toNat)
  else if 'a' ≤ c ∧ c ≤ 'f' then some (c.toNat - 'a'.toNat + 10)
  else if 'A' ≤ c ∧ c ≤ 'F' then some (c.toNat - 'A'.toNat + 10)
  else none

/-- The number that a run of decimal digits denotes; other characters count as zero. -/
def decimalValue (digits : List Char) : Nat :=
  digits.foldl (fun value c => 10 * value + (digit? c).getD 0) 0

/-- The leading decimal digits and what follows them. -/
def spanDigits (text : List Char) : List Char × List Char :=
  text.span Char.isDigit

end SqlDialects.Text
