import SqlDialects.Number.Shortest

/-! The written forms of a double: plain positional digits, and forms that turn to an exponent for
very large and very small numbers. -/

namespace SqlDialects

/-- How a double is written. A number is positional if `low ≤ point ≤ high`, where `point` is the
place of the decimal point after the first digit's left edge; other numbers take an exponent. -/
structure NumberLayout where
  tie : TieRule
  /-- The least place of the decimal point of a positional number, or no bound. -/
  low : Option Int
  /-- The greatest place of the decimal point of a positional number, or no bound. -/
  high : Option Int
  /-- Whether whole positional numbers end in `.0`. -/
  pointZero : Bool
  /-- Whether an exponent that is not negative has a sign. -/
  plusSign : Bool
deriving DecidableEq, Repr

namespace NumberLayout

/-- Never an exponent, no `.0`. -/
def plain : NumberLayout := ⟨.up, none, none, false, false⟩

/-- Positional from `10^-5` up to below `10^16`, whole numbers with `.0`; `1e+16` from there on. -/
def json : NumberLayout := ⟨.even, some (-4), some 16, true, true⟩

/-- Positional from `10^-4` up to below `10^16`, whole numbers with `.0`; `1e16` from there on. -/
def inspect : NumberLayout := ⟨.up, some (-3), some 16, true, false⟩

/-- The digits with the decimal point `point` places after their start. -/
def positional (layout : NumberLayout) (digits : List Char) (point : Int) : List Char :=
  if point ≤ 0 then
    '0' :: '.' :: (List.replicate (-point).toNat '0' ++ digits)
  else if (digits.length : Int) ≤ point then
    digits ++ List.replicate (point.toNat - digits.length) '0' ++
      (if layout.pointZero then ['.', '0'] else [])
  else
    digits.take point.toNat ++ '.' :: digits.drop point.toNat

/-- One digit, the others after a point, and the power of ten. -/
def scientific (layout : NumberLayout) (digits : List Char) (point : Int) : List Char :=
  let mantissa :=
    match digits with
    | [] => []
    | [d] => [d]
    | d :: rest => d :: '.' :: rest
  let sign := if layout.plusSign ∧ 1 ≤ point then ['+'] else []
  mantissa ++ 'e' :: (sign ++ (toString (point - 1)).toList)

/-- The text of a double. Zero is written like the digit `0` before the point. -/
def write (layout : NumberLayout) (x : Double) : String :=
  let sign := if x.negative then ['-'] else []
  let body :=
    if x.isZero then
      layout.positional ['0'] 1
    else
      let d := x.shortest layout.tie
      let digits := Nat.toDigits 10 d.digits
      let point := d.exponent + digits.length
      let within :=
        layout.low.all (fun low => decide (low ≤ point)) &&
          layout.high.all (fun high => decide (point ≤ high))
      if within then layout.positional digits point else layout.scientific digits point
  String.ofList (sign ++ body)

end NumberLayout

end SqlDialects
