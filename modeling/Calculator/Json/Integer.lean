/-
The integers that JSON values stand for.

Besides an integer itself, a truth value stands for one or zero, a real for the
integer that it is, if that has 64 bits, and a text for the integer that it
spells: with a sign or none, low lines between the digits, and perhaps a
fraction of zeros.
-/
import Calculator.Json.Basic
import Calculator.Numeral

namespace Calculator.Json

/-- One more than the greatest integer of 64 bits. -/
def wordBound : Nat := 0x8000000000000000

/-- The number is an integer of 64 bits. -/
def isWord (n : Int) : Bool := -wordBound ≤ n && n < wordBound

/-- The integer that a real is, if its magnitude has 63 bits. -/
def wordOfReal? (x : Binary64) : Option Int := x.toInt?.filter (·.natAbs < wordBound)

/-- The integer that a text spells. Blanks at its ends do not count. -/
def integerOfText? (text : List Char) : Option Int :=
  let text := Text.trim text
  let whole := text.takeWhile (· ≠ '.')
  let fraction := text.drop whole.length
  if fraction ≠ ['.'] ∧ fraction.tail.all (· = '0') then Numeral.signed? whole else none

/-- The integer that a value stands for. -/
def toInt? : Json → Option Int
  | integer value => some value
  | bool value => some (if value then 1 else 0)
  | real x => wordOfReal? x
  | string text => integerOfText? text.toList
  | _ => none

end Calculator.Json
