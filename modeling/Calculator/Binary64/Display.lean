/-
Binary64 numbers as text, in two forms.

`text` always shows that the number is a real: the fewest digits that identify
it, with a point or an exponent. `display` shows a number that is an integer as
that integer, all of its digits, and any other number as `text` does.
-/
import Calculator.Binary64.Shortest
import Calculator.Numeral

namespace Calculator

/-- How the digits of a decimal are laid out. -/
structure Layout where
  /-- the least power of ten that a leading digit may stand for without an exponent -/
  leastPositional : Int
  /-- the power of ten at which exponents begin -/
  leastScientific : Int
  /-- what follows the digits of a whole number -/
  wholeMark : String
  /-- what stands between the digits and the exponent -/
  exponentMark : String
  /-- the least number of digits of an exponent -/
  exponentPlaces : Nat

namespace Layout

/-- The digits with the point after the first `whole` of them. -/
def point (digits : List Char) (whole : Nat) : String :=
  String.ofList (digits.take whole) ++ "." ++ String.ofList (digits.drop whole)

/-- So many zeros. -/
def zeros (n : Nat) : String := String.ofList (List.replicate n '0')

/-- The exponent, always signed and filled up with zeros. -/
def exponentText (layout : Layout) (exponent : Int) : String :=
  let digits := exponent.natAbs.repr
  layout.exponentMark ++ (if exponent < 0 then "-" else "+") ++
    zeros (layout.exponentPlaces - digits.length) ++ digits

/-- A decimal laid out. -/
def write (layout : Layout) (d : Decimal) : String :=
  let digits := Nat.toDigits 10 d.digits
  let leading := d.exponent + digits.length - 1
  if leading < layout.leastPositional ∨ layout.leastScientific ≤ leading then
    (if digits.length = 1 then String.ofList digits else point digits 1) ++
      layout.exponentText leading
  else if 0 ≤ d.exponent then
    String.ofList digits ++ zeros d.exponent.toNat ++ layout.wholeMark
  else if 0 ≤ leading then point digits (leading.toNat + 1)
  else "0." ++ zeros (-leading - 1).toNat ++ String.ofList digits

end Layout

namespace Binary64

/-- Digits are positional from 10^-4 up to below 10^16, a whole number ends in a point
and a zero, and an exponent has a sign and two digits at least. -/
def layout : Layout := ⟨-4, 16, ".0", "e", 2⟩

/-- The text of a magnitude. -/
def magnitudeText (rank : Nat) : String :=
  if rank = 0 then "0" ++ layout.wholeMark else layout.write (shortestDecimal rank)

/-- The number as a real: the fewest digits that identify it. Nan is written without a sign. -/
def text : Binary64 → String
  | nan => "nan"
  | infinity negative => if negative then "-inf" else "inf"
  | finite negative rank => (if negative then "-" else "") ++ magnitudeText rank

/-- The number as an integer if it is one, and as a real otherwise. -/
def display (x : Binary64) : String :=
  match x.toInt? with
  | some n => Numeral.decimal n
  | none => x.text

end Binary64

end Calculator
