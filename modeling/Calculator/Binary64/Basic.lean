/-
Numbers of the binary64 format.

A number is nan, a signed infinity, or a sign with the *rank* of a magnitude:
the finite magnitudes in ascending order are numbered from 0, which is zero.
The rank is at the same time the lower 63 bits of the number's word, so order
and encoding are one number and equality of numbers is equality of words. A
magnitude is a whole number of units of 2^-1074 (`units`); `unit` of them make
one. Nan has one word only.
-/
namespace Calculator

/-- How many finite magnitudes there are. -/
abbrev ranks : Nat := 2047 * Nat.pow 2 52

/-- A binary64 number. -/
inductive Binary64 where
  | nan
  | infinity (negative : Bool)
  | finite (negative : Bool) (rank : Fin ranks)
  deriving DecidableEq, Repr

namespace Binary64

/-! ## Magnitudes -/

/-- The units that make one. -/
def unit : Nat := Nat.pow 2 1074

/-- The power of two that scales the significand, in units. -/
def exponent (rank : Nat) : Nat := rank / Nat.pow 2 52 - 1

/-- The significand, with its leading bit. -/
def significand (rank : Nat) : Nat := rank - exponent rank * Nat.pow 2 52

/-- The magnitude of a rank, in units. -/
def units (rank : Nat) : Nat := significand rank * Nat.pow 2 (exponent rank)

/-- A signed magnitude, in units. -/
def signedUnits (negative : Bool) (rank : Nat) : Int :=
  if negative then -(units rank : Int) else units rank

/-- The rank of one. -/
def rankOfOne : Nat := 1023 * Nat.pow 2 52

/-! ## Constants -/

/-- Zero of either sign. -/
def zero (negative : Bool) : Binary64 := finite negative ⟨0, by decide⟩

/-- One. -/
def one : Binary64 := finite false ⟨rankOfOne, by decide⟩

/-! ## Words -/

/-- The sign bit of a word. -/
def signBit : Nat := Nat.pow 2 63

/-- The word of a number. -/
def toWord : Binary64 → Nat
  | nan => ranks + Nat.pow 2 51
  | infinity negative => ranks + if negative then signBit else 0
  | finite negative rank => rank + if negative then signBit else 0

/-- The number of a word; the words of nan are not told apart. -/
def ofWord (word : Nat) : Binary64 :=
  let negative := decide (signBit ≤ word)
  let body := word % signBit
  if h : body < ranks then finite negative ⟨body, h⟩
  else if body = ranks then infinity negative
  else nan

theorem ofWord_body {negative : Bool} {body word : Nat}
    (hw : word = body + if negative then signBit else 0)
    (hb : body < signBit) : ofWord word =
      if h : body < ranks then finite negative ⟨body, h⟩
      else if body = ranks then infinity negative
      else nan := by
  have hm : word % signBit = body := by
    subst hw; cases negative
    · exact Nat.mod_eq_of_lt hb
    · exact (Nat.add_mod_right ..).trans (Nat.mod_eq_of_lt hb)
  have hs : decide (signBit ≤ word) = negative := by
    subst hw; cases negative
    · exact decide_eq_false (Nat.not_le.2 hb)
    · exact decide_eq_true (Nat.le_add_left ..)
  unfold ofWord
  rw [hm, hs]

theorem ranks_lt_signBit : ranks < signBit := by decide

theorem ofWord_toWord (x : Binary64) : ofWord x.toWord = x := by
  cases x with
  | nan => decide
  | infinity negative =>
    rw [toWord, ofWord_body rfl ranks_lt_signBit, dif_neg (Nat.lt_irrefl _), if_pos rfl]
  | finite negative rank =>
    rw [toWord, ofWord_body rfl (Nat.lt_trans rank.isLt ranks_lt_signBit), dif_pos rank.isLt]

/-! ## Classes -/

/-- The sign bit is set; nan has none. -/
def isNegative : Binary64 → Bool
  | nan => false
  | infinity negative => negative
  | finite negative _ => negative

/-- The number is neither nan nor an infinity. -/
def isFinite : Binary64 → Bool
  | finite _ _ => true
  | _ => false

/-- The number is an infinity. -/
def isInfinite : Binary64 → Bool
  | infinity _ => true
  | _ => false

/-- The number is a zero of either sign. -/
def isZero : Binary64 → Bool
  | finite _ rank => rank.val = 0
  | _ => false

/-- The magnitude is one. -/
def isUnit : Binary64 → Bool
  | finite _ rank => rank.val = rankOfOne
  | _ => false

/-! ## Integers -/

/-- The integer that a number is, if it is one. -/
def toInt? : Binary64 → Option Int
  | finite negative rank =>
    if units rank % unit = 0 then
      some (if negative then -(units rank / unit : Nat) else (units rank / unit : Nat))
    else none
  | _ => none

/-- The number is an odd integer. -/
def isOdd (x : Binary64) : Bool := x.toInt?.any (· % 2 = 1)

end Binary64

end Calculator
