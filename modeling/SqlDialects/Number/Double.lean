/-! Finite double-precision numbers, held exactly, and the rounding of quotients of naturals to
the nearest of them. All arithmetic is on naturals. -/

namespace SqlDialects

/-- The finite double with the value `± significand · 2^(exponent - 1074)`. The bounds leave one
representation for each double, the two zeros apart. -/
structure Double where
  negative : Bool
  significand : Nat
  exponent : Nat
  significand_lt : significand < Nat.pow 2 53
  exponent_le : exponent ≤ 2045
  normal : exponent = 0 ∨ Nat.pow 2 52 ≤ significand
deriving DecidableEq, Repr

namespace Double

/-- The double of these parts, if they are within the bounds. -/
def make? (negative : Bool) (significand exponent : Nat) : Option Double :=
  if h : significand < Nat.pow 2 53 ∧ exponent ≤ 2045 ∧
      (exponent = 0 ∨ Nat.pow 2 52 ≤ significand) then
    some ⟨negative, significand, exponent, h.1, h.2.1, h.2.2⟩
  else
    none

def zero (negative : Bool) : Double :=
  ⟨negative, 0, 0, by decide, by decide, .inl rfl⟩

def isZero (x : Double) : Bool := x.significand == 0

/-- The magnitude in units of `2^-1074`. -/
def units (x : Double) : Nat := x.significand * Nat.pow 2 x.exponent

/-- The quotient rounded to the nearest natural, a half to the even neighbour. -/
def roundEven (numerator denominator : Nat) : Nat :=
  let quotient := numerator / denominator
  let remainder := numerator % denominator
  if 2 * remainder > denominator ∨ (2 * remainder = denominator ∧ quotient % 2 = 1) then
    quotient + 1
  else
    quotient

/-- The double nearest to `± numerator / denominator`, a half to the even neighbour; `none` if it
lies beyond the largest double. -/
def nearest? (negative : Bool) (numerator denominator : Nat) : Option Double :=
  let scaled := numerator * Nat.pow 2 1074
  let exponent := (scaled / denominator).log2 - 52
  let significand := roundEven scaled (denominator * Nat.pow 2 exponent)
  if significand = Nat.pow 2 53 then make? negative (Nat.pow 2 52) (exponent + 1)
  else make? negative significand exponent

/-- The double nearest to an integer. -/
def ofInt? (n : Int) : Option Double := nearest? (n < 0) n.natAbs 1

/-- The exact product with a natural, rounded. -/
def scaleUp? (x : Double) (factor : Nat) : Option Double :=
  nearest? x.negative (x.units * factor) (Nat.pow 2 1074)

/-- The exact quotient by a natural, rounded. -/
def scaleDown? (x : Double) (divisor : Nat) : Option Double :=
  nearest? x.negative x.units (Nat.pow 2 1074 * divisor)

/-- The integer value of the double nearest to `10^n`, for `n ≤ 308`. -/
def tenPower (n : Nat) : Nat :=
  ((nearest? false (Nat.pow 10 n) 1).getD (zero false)).units / Nat.pow 2 1074

/-- Division by `10^308`, `steps` times over, each quotient rounded; zero stays zero. -/
def divideRepeatedly? : Nat → Double → Option Double
  | 0, x => some x
  | steps + 1, x =>
    if x.isZero then some x
    else (x.scaleDown? (tenPower 308)).bind (divideRepeatedly? steps)

/-- Division by `10^n` in steps of at most `10^308`, each quotient rounded. -/
def divideTenPower? (x : Double) (n : Nat) : Option Double := do
  let steps := (n - 1) / 308
  let y ← divideRepeatedly? steps x
  y.scaleDown? (tenPower (n - 308 * steps))

/-- The value of a significand scaled by a power of ten: the significand is rounded first and the
scaled result is rounded again. `none` if the result is beyond the largest double. -/
def ofScientific? (negative : Bool) (significand : Nat) (exponent : Int) : Option Double := do
  let x ← nearest? negative significand 1
  match exponent with
  | .ofNat n =>
    if n ≤ 308 then x.scaleUp? (tenPower n)
    else if x.isZero then some x
    else none
  | .negSucc n => x.divideTenPower? (n + 1)

end Double

end SqlDialects
