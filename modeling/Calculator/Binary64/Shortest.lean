/-
The fewest decimal digits that identify a binary64 magnitude.

A decimal identifies a magnitude if it rounds to it: it lies between the
midpoints to the two neighbours, and on a midpoint only if the significand is
even (`identifies`). For 1, 2, … digits the two decimals next to the magnitude
on the grid of that many digits are tried; the first grid with a hit decides,
and of two hits the nearer, of two equally near the even one. Seventeen digits
always suffice.
-/
import Calculator.Binary64.Basic

namespace Calculator

/-- The decimal `digits * 10 ^ exponent`. -/
structure Decimal where
  digits : Nat
  exponent : Int
  deriving DecidableEq, Repr

namespace Decimal

/-- The same decimal without trailing zeros. -/
def strip (d : Decimal) : Decimal :=
  if d.digits ≠ 0 ∧ d.digits % 10 = 0 then strip ⟨d.digits / 10, d.exponent + 1⟩ else d
termination_by d.digits
decreasing_by omega

end Decimal

namespace Binary64

/-- Twice the magnitude halfway to the next one below, in units. -/
def twiceLowerEnd (rank : Nat) : Nat := units (rank - 1) + units rank

/-- Twice the magnitude halfway to the next one above, in units. -/
def twiceUpperEnd (rank : Nat) : Nat := units rank + units (rank + 1)

/-- The decimal rounds to the magnitude of the rank. -/
def identifies (d : Decimal) (rank : Nat) : Bool :=
  let twice := 2 * d.digits * Nat.pow 10 d.exponent.toNat * unit
  let lower := twiceLowerEnd rank * Nat.pow 10 (-d.exponent).toNat
  let upper := twiceUpperEnd rank * Nat.pow 10 (-d.exponent).toNat
  (lower < twice && twice < upper) || (rank % 2 == 0 && (twice == lower || twice == upper))

/-- The least power of ten above the magnitude, as an exponent. -/
def magnitudeOrder (rank : Nat) : Int :=
  (units rank * Nat.pow 10 324 / unit).repr.length - (324 : Int)

/-- The decimal of so many digits that identifies the magnitude and is nearest to it. -/
def identified? (rank places : Nat) : Option Decimal :=
  let exponent := magnitudeOrder rank - places
  let a := units rank * Nat.pow 10 (-exponent).toNat
  let d := unit * Nat.pow 10 exponent.toNat
  let floor := a / d
  let below : Decimal := ⟨floor, exponent⟩
  let above : Decimal := ⟨floor + 1, exponent⟩
  match identifies below rank, identifies above rank with
  | true, true =>
    let twice := 2 * (a % d)
    some (if twice < d ∨ (twice = d ∧ floor % 2 = 0) then below else above)
  | true, false => some below
  | false, true => some above
  | false, false => none

/-- The exact decimal of a magnitude. -/
def exactDecimal (rank : Nat) : Decimal := ⟨units rank * Nat.pow 5 1074, -1074⟩

/-- The shortest decimal that identifies a magnitude other than zero. -/
def shortestDecimal (rank : Nat) : Decimal :=
  (((List.range 17).findSome? fun n => identified? rank (n + 1)).getD (exactDecimal rank)).strip

end Binary64

end Calculator
