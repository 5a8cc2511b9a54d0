/-
Arithmetic on binary64 numbers.

Sums, products and quotients are exact fractions of units, rounded once. Two
operations are built in two steps. `quotient?` has no answer for a zero divisor
and `power?` none where the power is undefined or too large; `divide` and
`power` say what the result is there. So every operation is total, and nan and
the infinities are ordinary results.

The power of a positive finite base is the machine's own.
-/
import Calculator.Binary64.Rounding

namespace Calculator.Binary64

/-! ## Sign -/

/-- The number of the other sign; nan has no sign. -/
def neg : Binary64 → Binary64
  | nan => nan
  | infinity negative => infinity (!negative)
  | finite negative rank => finite (!negative) rank

/-- The number without its sign. -/
def abs : Binary64 → Binary64
  | nan => nan
  | infinity _ => infinity false
  | finite _ rank => finite false rank

theorem neg_neg (x : Binary64) : x.neg.neg = x := by cases x <;> simp [neg]

/-! ## Sum, difference, product -/

/-- The sum. An exact sum of zero is negative only if both terms are. -/
def add : Binary64 → Binary64 → Binary64
  | nan, _ => nan
  | _, nan => nan
  | infinity s, infinity t => if s = t then infinity s else nan
  | infinity s, finite _ _ => infinity s
  | finite _ _, infinity t => infinity t
  | finite s a, finite t b =>
    let total := signedUnits s a + signedUnits t b
    if total = 0 then zero (s && t) else round (total < 0) total.natAbs 1

/-- The difference. -/
def sub (x y : Binary64) : Binary64 := x.add y.neg

/-- The product. -/
def mul : Binary64 → Binary64 → Binary64
  | nan, _ => nan
  | _, nan => nan
  | infinity s, infinity t => infinity (s != t)
  | infinity s, finite t b => if b.val = 0 then nan else infinity (s != t)
  | finite s a, infinity t => if a.val = 0 then nan else infinity (s != t)
  | finite s a, finite t b => round (s != t) (units a * units b) unit

/-! ## Quotient -/

/-- The quotient by a divisor that is not zero. -/
def quotient? : Binary64 → Binary64 → Option Binary64
  | nan, y => if y.isZero then none else some nan
  | _, nan => some nan
  | infinity _, infinity _ => some nan
  | infinity s, finite t b => if b.val = 0 then none else some (infinity (s != t))
  | finite s _, infinity t => some (zero (s != t))
  | finite s a, finite t b =>
    if b.val = 0 then none else some (round (s != t) (units a * unit) (units b))

/-- The quotient. By a zero it is an infinity of the sign that the signs of both
give, and nan if the dividend is zero or nan too. -/
def divide (x y : Binary64) : Binary64 :=
  match quotient? x y with
  | some q => q
  | none => if x.isZero || x == nan then nan else infinity (x.isNegative != y.isNegative)

/-! ## Power -/

/-- Why a power has no value. -/
inductive PowerFault where
  /-- a zero to a negative power, or a negative number to a fractional one -/
  | undefined
  /-- the power of finite numbers is too large -/
  | overflow
  deriving DecidableEq, Repr

/-- The power of a positive finite base, as the machine computes it. -/
def machinePower (base exponent : Binary64) : Binary64 :=
  ofWord ((Float.ofBits (.ofNat base.toWord)).pow
    (Float.ofBits (.ofNat exponent.toWord))).toBits.toNat

/-- The power of a base without sign to a finite exponent other than zero. -/
def magnitudePower (base exponent : Binary64) : Binary64 :=
  match base with
  | nan => nan
  | infinity _ => if exponent.isNegative then zero false else infinity false
  | finite _ rank =>
    if rank.val = 0 then (if exponent.isNegative then infinity false else zero false)
    else machinePower base exponent

/-- The power to an infinite exponent: it grows or vanishes as the base is
greater or less than one, and stays one at one. -/
def powerToInfinity (base : Binary64) (negative : Bool) : Binary64 :=
  match base with
  | nan => nan
  | infinity _ => if negative then zero false else infinity false
  | finite _ rank =>
    if rank.val = rankOfOne then one
    else if decide (rank.val < rankOfOne) == negative then infinity false
    else zero false

/-- The power has no value: zero to a finite negative power, or a finite negative base
to a finite power that is no integer. -/
def isUndefinedPower (base exponent : Binary64) : Bool :=
  exponent.isFinite &&
    ((base.isZero && exponent.isNegative && !exponent.isZero) ||
     (base.isFinite && base.isNegative && !base.isZero && exponent.toInt?.isNone))

/-- The power wherever it is not undefined. Anything to the power zero is one, and the
sign of the base survives an odd power. -/
def definedPower (base exponent : Binary64) : Binary64 :=
  match exponent with
  | nan => if base = one then one else nan
  | infinity negative => powerToInfinity base negative
  | finite _ rank =>
    if rank.val = 0 then one
    else if base.isNegative && exponent.isOdd then (magnitudePower base.abs exponent).neg
    else magnitudePower base.abs exponent

/-- The power, refused where it is undefined and where it overflows. -/
def power? (base exponent : Binary64) : Except PowerFault Binary64 :=
  if isUndefinedPower base exponent then .error .undefined
  else
    let result := definedPower base exponent
    if base.isFinite && exponent.isFinite && result.isInfinite then .error .overflow else .ok result

/-- The power. Nan as exponent gives nan, and so does an infinite exponent at magnitude
one; an overflow is an infinity, negative only for an odd power of a negative base; a zero to a
negative power is an infinity, of the sign of the zero if the power is odd; what is
undefined otherwise is nan. -/
def power (base exponent : Binary64) : Binary64 :=
  if exponent = nan ∨ (exponent.isInfinite ∧ base.isUnit) then nan
  else match power? base exponent with
    | .ok result => result
    | .error .overflow => infinity (base.isNegative && exponent.isOdd)
    | .error .undefined =>
      if base.isZero then infinity (exponent.isOdd && base.isNegative) else nan

end Calculator.Binary64
