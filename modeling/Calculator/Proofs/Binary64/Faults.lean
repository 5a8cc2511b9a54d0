/-
The operations of the machine that may fault, and the guards around them.

A quotient faults by a zero divisor, an integer that is too large faults when it
is made a number, nan and the infinities fault when they are made integers, and
an integer of too many digits faults when it is written out. A power may fault in
two ways, whenever it likes. The operations of the calculator look before they
call these, or catch the fault; so they have a result for all numbers, and it is
the one that the total operations give (`tryDivide_eq`, `tryOfInt_eq`,
`tryOdd_eq`, `tryPower_eq`, `tryDisplay_eq`).
-/
import Calculator.Binary64.Display
import Calculator.Proofs.Binary64.Integer

namespace Calculator

/-- What ends an evaluation that does not look out. -/
inductive Fault where
  /-- the divisor is zero -/
  | zeroDivision
  /-- the integer is too large for a number -/
  | tooLarge
  /-- the number is nan or an infinity and so no integer -/
  | notFinite
  /-- the integer has too many digits to be written out -/
  | tooLong
  /-- there are too few values for an operation -/
  | noValue
  deriving DecidableEq, Repr

namespace Fault

variable {α : Type}

/-- The value, or the fault if there is none. -/
def ifNone (fault : Fault) : Option α → Except Fault α
  | some a => .ok a
  | none => .error fault

/-- The outcome, with a value in place of the fault. -/
def caught (fault : Fault) (instead : α) : Except Fault α → Except Fault α
  | .ok a => .ok a
  | .error other => if other = fault then .ok instead else .error other

theorem ifNone_eq_error_iff {fault : Fault} {value? : Option α} :
    fault.ifNone value? = .error fault ↔ value? = none := by
  cases value? <;> simp [ifNone]

theorem caught_ifNone (fault : Fault) (instead : α) (value? : Option α) :
    fault.caught instead (fault.ifNone value?) = .ok (value?.getD instead) := by
  cases value? with
  | none => exact if_pos rfl
  | some a => rfl

end Fault

namespace Binary64

/-! ## What may fault -/

/-- The quotient of the machine. -/
def machineQuotient (x y : Binary64) : Except Fault Binary64 :=
  Fault.zeroDivision.ifNone (quotient? x y)

/-- An integer as a number of the machine. -/
def machineOfInt (n : Int) : Except Fault Binary64 := Fault.tooLarge.ifNone (ofInt? n)

/-- The integer that is left of a number without its fraction. -/
def machineToInt : Binary64 → Except Fault Int
  | finite negative rank =>
    .ok (if negative then -(units rank / unit : Nat) else (units rank / unit : Nat))
  | _ => .error .notFinite

/-- The text of an integer as the machine writes it. -/
def machineText (n : Int) : Except Fault String := Fault.tooLong.ifNone (Numeral.text? n)

/-- A power of some machine: it may fault in either way, for any operands. -/
abbrev Power := Binary64 → Binary64 → Except PowerFault Binary64

theorem quotient?_eq_none_iff {x y : Binary64} : quotient? x y = none ↔ y.isZero = true := by
  cases x <;> cases y <;> simp [quotient?, isZero]

theorem machineQuotient_eq_error_iff {x y : Binary64} :
    machineQuotient x y = .error .zeroDivision ↔ y.isZero = true := by
  rw [machineQuotient, Fault.ifNone_eq_error_iff, quotient?_eq_none_iff]

theorem machineToInt_eq_error_iff {x : Binary64} :
    machineToInt x = .error .notFinite ↔ x.isFinite = false := by
  cases x with
  | nan => exact ⟨fun _ => rfl, fun _ => rfl⟩
  | infinity negative => exact ⟨fun _ => rfl, fun _ => rfl⟩
  | finite negative rank => exact ⟨nofun, nofun⟩

theorem machineText_eq_error_iff {n : Int} :
    machineText n = .error .tooLong ↔ Numeral.longest < n.natAbs.repr.length := by
  rw [machineText, Fault.ifNone_eq_error_iff, Numeral.text?_eq_none_iff]

/-! ## Guards -/

/-- The quotient, where a zero divisor is looked for first. -/
def tryDivide (x y : Binary64) : Except Fault Binary64 :=
  if y.isZero then
    .ok (if x.isZero || x == nan then nan else infinity (x.isNegative != y.isNegative))
  else machineQuotient x y

/-- The number nearest to an integer, where plus infinity is taken for what is too large. -/
def tryOfInt (n : Int) : Except Fault Binary64 :=
  Fault.tooLarge.caught (infinity false) (machineOfInt n)

/-- The number is an odd integer; only what is an integer is made one. -/
def tryOdd (x : Binary64) : Except Fault Bool :=
  if x.isFinite && x.toInt?.isSome then (machineToInt x).map fun n => n % 2 = 1 else .ok false

/-- The number is less than zero. -/
def isBelowZero (x : Binary64) : Bool := x.isNegative && !x.isZero

/-- The power, where both faults are caught. What is made of them may fault in turn. -/
def tryPower (pow : Power) (base exponent : Binary64) : Except Fault Binary64 :=
  if exponent = nan ∨ (exponent.isInfinite ∧ base.isUnit) then .ok nan
  else match pow base exponent with
    | .ok result => .ok result
    | .error .overflow =>
      if base.isBelowZero then (tryOdd exponent).map infinity else .ok (infinity false)
    | .error .undefined =>
      if base.isZero then (tryOdd exponent).map fun odd => infinity (odd && base.isNegative)
      else .ok nan

/-- The text of a number; only what is an integer is written as one. -/
def tryDisplay (x : Binary64) : Except Fault String :=
  if x.isFinite && x.toInt?.isSome then (machineToInt x).bind machineText else .ok x.text

/-! ## Behind the guards nothing faults -/

theorem tryDivide_eq (x y : Binary64) : tryDivide x y = .ok (x.divide y) := by
  by_cases hy : y.isZero = true
  · rw [tryDivide, if_pos hy, divide, quotient?_eq_none_iff.2 hy]
  · cases hq : quotient? x y with
    | none => exact absurd (quotient?_eq_none_iff.1 hq) hy
    | some q => rw [tryDivide, if_neg hy, machineQuotient, divide, hq, Fault.ifNone]

theorem tryOfInt_eq (n : Int) : tryOfInt n = .ok (ofInt n) := by
  rw [tryOfInt, machineOfInt, Fault.caught_ifNone, ofInt]

theorem machineToInt_of_toInt? {x : Binary64} {n : Int} (h : x.toInt? = some n) :
    machineToInt x = .ok n := by
  cases x with
  | nan => cases h
  | infinity negative => cases h
  | finite negative rank =>
    rw [toInt?] at h
    by_cases hmod : units rank % unit = 0
    · rw [if_pos hmod] at h
      rw [machineToInt, Option.some.inj h]
    · rw [if_neg hmod] at h
      cases h

theorem tryOdd_eq (x : Binary64) : tryOdd x = .ok x.isOdd := by
  unfold tryOdd isOdd
  cases h : x.toInt? with
  | none => rw [Option.isSome_none, Bool.and_false]; rfl
  | some n =>
    rw [isFinite_of_toInt? h, machineToInt_of_toInt? h]
    rfl

theorem machineText_of_toInt? {x : Binary64} {n : Int} (h : x.toInt? = some n) :
    machineText n = .ok (Numeral.decimal n) := by
  have hlen : n.natAbs.repr.length ≤ Numeral.longest :=
    Nat.le_trans (length_repr_le_of_toInt? h) (by decide)
  rw [machineText, Numeral.text?_of_short hlen, Fault.ifNone]

theorem tryDisplay_eq (x : Binary64) : tryDisplay x = .ok x.display := by
  cases h : x.toInt? with
  | none => rw [tryDisplay, display, h, Option.isSome_none, Bool.and_false, if_neg nofun]
  | some n =>
    have hguard : (x.isFinite && x.toInt?.isSome) = true := by rw [h, isFinite_of_toInt? h]; rfl
    rw [tryDisplay, if_pos hguard, machineToInt_of_toInt? h, display, h, Except.bind,
      machineText_of_toInt? h]

/-! ## Powers -/

/-- The power that is made of a machine's, with a number in place of each fault. -/
def powerBy (pow : Power) (base exponent : Binary64) : Binary64 :=
  if exponent = nan ∨ (exponent.isInfinite ∧ base.isUnit) then nan
  else match pow base exponent with
    | .ok result => result
    | .error .overflow => infinity (base.isBelowZero && exponent.isOdd)
    | .error .undefined => if base.isZero then infinity (exponent.isOdd && base.isNegative) else nan

/-- **No power faults,** whatever the machine's does. -/
theorem tryPower_eq (pow : Power) (x y : Binary64) : tryPower pow x y = .ok (powerBy pow x y) := by
  unfold tryPower powerBy
  rw [tryOdd_eq]
  split
  · rfl
  · match pow x y with
    | .ok result => rfl
    | .error .overflow => cases x.isBelowZero <;> rfl
    | .error .undefined => cases x.isZero <;> rfl

theorem isInfinite_definedPower_of_isZero {x y : Binary64} (hx : x.isZero = true)
    (hy : y.isFinite = true) (hdefined : isUndefinedPower x y = false) :
    (definedPower x y).isInfinite = false := by
  match x, y with
  | finite s a, finite t b =>
    have ha : a.val = 0 := of_decide_eq_true hx
    by_cases hb : b.val = 0
    · rw [definedPower, if_pos hb]
      rfl
    · have ht : t = false := by
        simpa [isUndefinedPower, isFinite, isZero, isNegative, ha, hb] using hdefined
      subst ht
      have hmagnitude : magnitudePower (finite s a).abs (finite false b) = zero false := by
        simp [magnitudePower, abs, ha, isNegative]
      rw [definedPower, if_neg hb, hmagnitude]
      split <;> rfl

theorem isZero_of_overflow {x y : Binary64} (h : power? x y = .error .overflow) :
    x.isZero = false := by
  cases hx : x.isZero with
  | false => rfl
  | true =>
    rw [power?] at h
    cases hdefined : isUndefinedPower x y with
    | true => rw [hdefined, if_pos rfl] at h; cases h
    | false =>
      rw [hdefined, if_neg nofun] at h
      cases hy : y.isFinite with
      | false => simp [hy] at h
      | true => simp [isInfinite_definedPower_of_isZero hx hy hdefined] at h

theorem powerBy_power? (x y : Binary64) : powerBy power? x y = x.power y := by
  unfold powerBy power
  split
  · rfl
  · match h : power? x y with
    | .ok result => rfl
    | .error .overflow => simp [isBelowZero, isZero_of_overflow h]
    | .error .undefined => rfl

end Binary64

end Calculator
