import SqlDialects.Number.Double

/-! The shortest decimal of a double: the fewest digits that read back, and of those the nearest
to the exact value. -/

namespace SqlDialects

/-- What is taken of two decimals that are equally near. -/
inductive TieRule where
  | up
  | even
deriving DecidableEq, Repr

/-- The decimal `digits · 10^exponent`. -/
structure Decimal where
  digits : Nat
  exponent : Int
deriving DecidableEq, Repr

namespace Decimal

/-- Trailing zeros move into the exponent. -/
def normalize : Nat → Decimal → Decimal
  | 0, d => d
  | fuel + 1, d =>
    if d.digits ≠ 0 ∧ d.digits % 10 = 0 then
      normalize fuel ⟨d.digits / 10, d.exponent + 1⟩
    else
      d

end Decimal

namespace Double

/-- The end points of the interval of reals that round to `x`, in units of `2^-1076`. Below a power
of two the neighbour is half as far away. -/
def roundingInterval (x : Double) : Nat × Nat :=
  let center := 4 * x.units
  let step := Nat.pow 2 x.exponent
  let below := if x.significand = Nat.pow 2 52 ∧ 0 < x.exponent then step else 2 * step
  (center - below, center + 2 * step)

/-- The decimal exponent of the leading digit of `x`, one more: `10^(m-1) ≤ |x| < 10^m`. -/
def magnitude (x : Double) : Int :=
  ((Nat.toDigits 10 (x.units * Nat.pow 10 400 / Nat.pow 2 1074)).length : Int) - 400

/-- The point of the grid `10^exponent` that stands for `x`, if one of the two neighbours of `x` on
the grid rounds to `x`. The ends of the interval belong to it iff the significand is even. -/
def onGrid? (tie : TieRule) (x : Double) (exponent : Int) : Option Decimal :=
  let up := Nat.pow 10 (-exponent).toNat
  let down := Nat.pow 2 1076 * Nat.pow 10 exponent.toNat
  let (low, high) := x.roundingInterval
  let inside (n : Nat) : Bool :=
    if x.significand % 2 = 0 then low * up ≤ n * down ∧ n * down ≤ high * up
    else low * up < n * down ∧ n * down < high * up
  let exact := 4 * x.units * up
  let floor := exact / down
  let rest := exact % down
  match inside floor, inside (floor + 1) with
  | true, false => some ⟨floor, exponent⟩
  | false, true => some ⟨floor + 1, exponent⟩
  | false, false => none
  | true, true =>
    if 2 * rest < down then some ⟨floor, exponent⟩
    else if down < 2 * rest then some ⟨floor + 1, exponent⟩
    else
      match tie with
      | .up => some ⟨floor + 1, exponent⟩
      | .even => some ⟨if floor % 2 = 0 then floor else floor + 1, exponent⟩

/-- The first hit on the grids of `count`, `count + 1`, … digits, for at most `more` grids. -/
def searchGrids (tie : TieRule) (x : Double) (magnitude : Int) : Nat → Nat → Option Decimal
  | 0, _ => none
  | more + 1, count =>
    match x.onGrid? tie (magnitude - count) with
    | some d => some d
    | none => searchGrids tie x magnitude more (count + 1)

/-- The shortest decimal that reads back as `|x|`, without trailing zeros. Seventeen digits always
suffice. -/
def shortest (tie : TieRule) (x : Double) : Decimal :=
  if x.isZero then
    ⟨0, 0⟩
  else
    ((searchGrids tie x x.magnitude 17 1).getD ⟨0, 0⟩).normalize 17

end Double

end SqlDialects
