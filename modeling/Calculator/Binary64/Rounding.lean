/-
Rounding to the nearest binary64 number, ties to the even significand.

The exact value to be rounded is a fraction `a / d` of units. `scale` finds the
power of two at which the quotient has 53 bits, or 0 below the normal numbers;
there the nearest integer is taken once. The rank of the result is read off
directly: a significand that rounds up to 2^53 carries into the next binade by
itself, and a rank past the last is an overflow.
-/
import Calculator.Binary64.Basic

namespace Calculator.Binary64

/-- The integer nearest to `a / d`, a tie going to the even one. -/
def nearest (a d : Nat) : Nat :=
  let floor := a / d
  let twice := 2 * (a % d)
  if twice < d then floor else if d < twice then floor + 1 else floor + floor % 2

/-- The least power of two, in units, at which `a / d` has at most 53 bits. -/
def scale (a d : Nat) : Nat :=
  let low := a.log2 - (d.log2 + 53)
  if a < d * Nat.pow 2 (low + 53) then low else low + 1

/-- The rank nearest to the fraction `a / d` of units. -/
def nearestRank (a d : Nat) : Nat :=
  let p := scale a d
  p * Nat.pow 2 52 + nearest a (d * Nat.pow 2 p)

/-- The number nearest to `a / d` units of the given sign, unless it is too large. -/
def round? (negative : Bool) (a d : Nat) : Option Binary64 :=
  if h : nearestRank a d < ranks then some (finite negative ⟨nearestRank a d, h⟩) else none

/-- The number nearest to `a / d` units of the given sign; what is too large is infinite. -/
def round (negative : Bool) (a d : Nat) : Binary64 :=
  (round? negative a d).getD (infinity negative)

/-! ## Integers and decimals -/

/-- The number nearest to an integer, unless it is too large. -/
def ofInt? (n : Int) : Option Binary64 := round? (n < 0) (n.natAbs * unit) 1

/-- The number nearest to an integer. What is too large, of either sign, is plus infinity. -/
def ofInt (n : Int) : Binary64 := (ofInt? n).getD (infinity false)

/-- The number nearest to `digits * 10 ^ exponent`. Far outside the range of the
format the power of ten is not computed. -/
def ofDecimal (negative : Bool) (digits : Nat) (exponent : Int) : Binary64 :=
  let top := (Nat.toDigits 10 digits).length + exponent
  if digits = 0 ∨ top < -400 then zero negative
  else if 400 < top then infinity negative
  else round negative (digits * Nat.pow 10 exponent.toNat * unit) (Nat.pow 10 (-exponent).toNat)

end Calculator.Binary64
