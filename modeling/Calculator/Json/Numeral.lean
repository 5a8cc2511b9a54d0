/-
Numbers as JSON writes them: an optional minus sign, a whole part without
leading zeros, and optionally a fraction and an exponent. A number with neither
is an integer.
-/
import Calculator.Binary64.Rounding
import Calculator.Json.Basic
import Calculator.Numeral

namespace Calculator.Json

/-- The parts of a number. -/
structure NumberParts where
  negative : Bool
  whole : List Char
  fraction : List Char
  /-- the mark, the sign and the digits of the exponent, or nothing -/
  exponent : List Char
  deriving DecidableEq, Repr

namespace NumberParts

/-- How many characters the number has. -/
def length (n : NumberParts) : Nat :=
  (if n.negative then 1 else 0) + n.whole.length +
    (if n.fraction = [] then 0 else n.fraction.length + 1) + n.exponent.length

/-- The number that the exponent stands for. -/
def exponentValue (n : NumberParts) : Int :=
  let digits := Numeral.value (n.exponent.filter Char.isDigit)
  if '-' ∈ n.exponent then -(digits : Int) else digits

/-- The number has neither fraction nor exponent. -/
def isInteger (n : NumberParts) : Bool := n.fraction = [] && n.exponent = []

/-- The number as an integer. -/
def toInt (n : NumberParts) : Int :=
  if n.negative then -(Numeral.value n.whole : Int) else Numeral.value n.whole

/-- The number as a real. -/
def toReal (n : NumberParts) : Binary64 :=
  Binary64.ofDecimal n.negative (Numeral.value (n.whole ++ n.fraction))
    (n.exponentValue - n.fraction.length)

/-- The number as a value. -/
def toJson (n : NumberParts) : Json := if n.isInteger then integer n.toInt else real n.toReal

end NumberParts

/-- The fraction at the front of a text, without its point. -/
def fractionAt (text : List Char) : List Char :=
  match text with
  | '.' :: rest => rest.takeWhile Char.isDigit
  | _ => []

/-- The exponent at the front of a text, if it has digits. -/
def exponentAt (text : List Char) : List Char :=
  match text with
  | mark :: rest =>
    let sign := (rest.take 1).filter fun c => c = '+' ∨ c = '-'
    let digits := (rest.drop sign.length).takeWhile Char.isDigit
    if (mark = 'e' ∨ mark = 'E') ∧ digits ≠ [] then mark :: (sign ++ digits) else []
  | [] => []

/-- The whole part at the front of a text: a zero, or digits that begin with no zero. -/
def wholeAt (text : List Char) : List Char :=
  match text with
  | '0' :: _ => ['0']
  | _ => text.takeWhile Char.isDigit

/-- The number whose sign is read already and whose whole part stands at the front of a text. -/
def unsignedAt? (negative : Bool) (text : List Char) : Option NumberParts :=
  let whole := wholeAt text
  if whole = [] then none
  else
    let rest := text.drop whole.length
    let fraction := fractionAt rest
    let rest := rest.drop (if fraction = [] then 0 else fraction.length + 1)
    some ⟨negative, whole, fraction, exponentAt rest⟩

/-- The number at the front of a text. -/
def numberAt? (text : List Char) : Option NumberParts :=
  match text with
  | '-' :: rest => unsignedAt? true rest
  | text => unsignedAt? false text

theorem length_pos_of_unsignedAt? {negative : Bool} {text : List Char} {n : NumberParts}
    (h : unsignedAt? negative text = some n) : 0 < n.length := by
  unfold unsignedAt? at h
  by_cases hw : wholeAt text = []
  · simp [hw] at h
  · simp only [hw, ↓reduceIte] at h
    obtain rfl := Option.some.inj h
    have := List.length_pos_iff.2 hw
    simp only [NumberParts.length]; omega

/-- A number has at least one character. -/
theorem length_pos_of_numberAt? {text : List Char} {n : NumberParts} (h : numberAt? text = some n) :
    0 < n.length := by
  unfold numberAt? at h
  split at h <;> exact length_pos_of_unsignedAt? h

end Calculator.Json
