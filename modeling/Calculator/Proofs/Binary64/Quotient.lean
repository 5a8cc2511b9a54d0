/-
The quotient of any two numbers is the one that the format prescribes
(`IsQuotient`).

The quotient of two finite numbers other than zero is the exact quotient of
their rationals, correctly rounded. The other quotients are decided by the
classes of the numbers: which are nan, which infinite and which zero. In all of
them the sign is negative exactly if the signs differ, so a quotient changes its
sign with either number (`neg_divide`, `divide_neg`). Together this leaves one
quotient (`IsQuotient.unique`), and it is the one that is computed
(`isQuotient_divide`).

A divisor that is zero is looked for first, and the infinity that is the
quotient there takes its sign from two signs that are copied and multiplied
(`divide_of_isZero`).
-/
import Calculator.Expr.Evaluation
import Calculator.Proofs.Binary64.Faults
import Calculator.Proofs.Binary64.Value

namespace Calculator.Binary64

/-! ## Rounding -/

theorem round_ne_nan (negative : Bool) (a d : Nat) : round negative a d ≠ nan := by
  unfold round round?
  split <;> nofun

theorem isNegative_round (negative : Bool) (a d : Nat) :
    (round negative a d).isNegative = negative := by
  unfold round round?
  split <;> rfl

theorem round_not (negative : Bool) (a d : Nat) :
    round (!negative) a d = (round negative a d).neg := by
  unfold round
  rw [round?_not]
  cases round? negative a d <;> rfl

theorem isZero_round_zero (negative : Bool) {d : Nat} (hd : 0 < d) :
    (round negative 0 d).isZero = true := by
  have hrank : nearestRank 0 d = 0 := by
    have hlower := (roundsTo_nearestRank 0 hd).lower
    rw [Nat.mul_zero, Nat.le_zero, Nat.mul_eq_zero, or_iff_left (Nat.ne_of_gt hd)] at hlower
    exact twiceLowerEnd_strictMono.injective (hlower.trans (by decide +kernel))
  unfold round round?
  rw [hrank]
  rfl

/-! ## Quotients by classes -/

@[simp] theorem nan_divide (y : Binary64) : nan.divide y = nan := by
  unfold divide quotient?
  by_cases hy : y.isZero = true <;> simp [hy]

@[simp] theorem divide_nan (x : Binary64) : x.divide nan = nan := by
  cases x <;> rfl

@[simp] theorem infinity_divide_infinity (s t : Bool) :
    (infinity s).divide (infinity t) = nan := rfl

@[simp] theorem infinity_divide_finite (s t : Bool) (b : Fin ranks) :
    (infinity s).divide (finite t b) = infinity (s != t) := by
  unfold divide quotient?
  by_cases hb : b.val = 0
  · simp only [if_pos hb]
    rfl
  · simp only [if_neg hb]

@[simp] theorem finite_divide_infinity (s t : Bool) (a : Fin ranks) :
    (finite s a).divide (infinity t) = zero (s != t) := rfl

/-- The quotient of two magnitudes, with a sign. -/
def signedQuotient (negative : Bool) (a b : Fin ranks) : Binary64 :=
  if b.val = 0 then (if a.val = 0 then nan else infinity negative)
  else round negative (units a * unit) (units b)

@[simp] theorem finite_divide_finite (s t : Bool) (a b : Fin ranks) :
    (finite s a).divide (finite t b) = signedQuotient (s != t) a b := by
  unfold divide quotient? signedQuotient
  by_cases hb : b.val = 0
  · simp only [if_pos hb, isZero, isNegative]
    by_cases ha : a.val = 0 <;> simp [ha]
  · simp only [if_neg hb]

theorem signedQuotient_not (negative : Bool) (a b : Fin ranks) :
    signedQuotient (!negative) a b = (signedQuotient negative a b).neg := by
  unfold signedQuotient
  split
  · split <;> rfl
  · exact round_not ..

/-! ## The sign at a zero -/

/-- The magnitude of the one number with the sign of the other. -/
def copySign (x y : Binary64) : Binary64 := if y.isNegative then x.abs.neg else x.abs

/-- The infinity that is the quotient by a zero is a product: that of an infinity with the sign of
the dividend, and of a one with the sign of the divisor. -/
theorem divide_of_isZero {x y : Binary64} (hy : y.isZero = true) :
    x.divide y =
      if x.isZero || x == nan then nan else (copySign (infinity false) x).mul (copySign one y) := by
  rw [divide, quotient?_eq_none_iff.2 hy]
  have hone : rankOfOne ≠ 0 := by decide
  simp only [copySign, abs, neg, one]
  cases x.isNegative <;> cases y.isNegative <;> simp [mul, hone]

example : one.neg.divide (zero true) = infinity false := by decide

/-! ## Signs -/

@[simp] theorem neg_nan : nan.neg = nan := rfl

theorem neg_infinity (negative : Bool) : (infinity negative).neg = infinity (!negative) := rfl

theorem neg_finite (negative : Bool) (rank : Fin ranks) :
    (finite negative rank).neg = finite (!negative) rank := rfl

theorem neg_divide (x y : Binary64) : x.neg.divide y = (x.divide y).neg := by
  cases x <;> cases y <;> simp [neg_infinity, neg_finite, zero, signedQuotient_not]

theorem divide_neg (x y : Binary64) : x.divide y.neg = (x.divide y).neg := by
  cases x <;> cases y <;> simp [neg_infinity, neg_finite, zero, signedQuotient_not]

/-! ## The format's quotient -/

/-- A number is the quotient of two numbers as the format has it. -/
structure IsQuotient (x y q : Binary64) : Prop where
  /-- There is none if either is nan, if both are zero, and if both are infinite. -/
  nan_iff : q = nan ↔ x = nan ∨ y = nan ∨ (x.isZero = true ∧ y.isZero = true) ∨
    (x.isInfinite = true ∧ y.isInfinite = true)
  isNegative : q ≠ nan → q.isNegative = (x.isNegative != y.isNegative)
  infinite : q ≠ nan → y.isZero = true ∨ x.isInfinite = true → q.isInfinite = true
  zero : q ≠ nan → x.isZero = true ∨ y.isInfinite = true → q.isZero = true
  /-- Finite numbers other than zero have the quotient of their rationals. -/
  rounded : x.isFinite = true → y.isFinite = true → x.isZero = false → y.isZero = false →
    IsRounded (x.toRat / y.toRat) q

theorem toRat_div_neg {s t : Bool} {a b : Fin ranks} (ha : a.val ≠ 0) (hb : b.val ≠ 0) :
    decide ((finite s a).toRat / (finite t b).toRat < 0) = (s != t) := by
  have ha' : 0 < magnitude a := (magnitude_nonneg a).lt_of_ne' (mt magnitude_eq_zero_iff.1 ha)
  have hb' : 0 < magnitude b := (magnitude_nonneg b).lt_of_ne' (mt magnitude_eq_zero_iff.1 hb)
  have hpos := div_pos ha' hb'
  cases s <;> cases t <;> simp [toRat, neg_div, div_neg, hpos, hpos.le]

/-- In units the quotient of the rationals is the fraction that is rounded. -/
theorem abs_toRat_div {s t : Bool} {a b : Fin ranks} (hb : b.val ≠ 0) :
    |(finite s a).toRat / (finite t b).toRat| * (units b * unit) = (units a * unit : Nat) := by
  have hb' : (units b : ℚ) ≠ 0 := Nat.cast_ne_zero.2 (mt units_eq_zero_iff.1 hb)
  rw [abs_div, abs_toRat_finite, abs_toRat_finite, magnitude, magnitude,
    div_div_div_cancel_right₀ unit_pos_rat.ne', Nat.cast_mul, ← mul_assoc, div_mul_cancel₀ _ hb']

theorem isRounded_signedQuotient {s t : Bool} {a b : Fin ranks} (ha : a.val ≠ 0) (hb : b.val ≠ 0) :
    IsRounded ((finite s a).toRat / (finite t b).toRat) (signedQuotient (s != t) a b) := by
  rw [signedQuotient, if_neg hb, ← toRat_div_neg ha hb]
  exact isRounded_round (Nat.pos_of_ne_zero (mt units_eq_zero_iff.1 hb)) (abs_toRat_div hb)

theorem isQuotient_signedQuotient (s t : Bool) (a b : Fin ranks) :
    IsQuotient (finite s a) (finite t b) (signedQuotient (s != t) a b) := by
  by_cases hb : b.val = 0
  · rw [signedQuotient, if_pos hb]
    by_cases ha : a.val = 0
    · rw [if_pos ha]
      constructor <;> simp [isZero, ha, hb]
    · rw [if_neg ha]
      constructor <;> simp [isZero, isInfinite, Binary64.isNegative, ha, hb]
  · have hrounded : signedQuotient (s != t) a b = round (s != t) (units a * unit) (units b) :=
      if_neg hb
    refine
      { nan_iff := ?_, isNegative := fun _ => ?_, infinite := ?_, zero := fun _ h => ?_,
        rounded := fun _ _ hx _ => isRounded_signedQuotient (of_decide_eq_false hx) hb }
    · simp [hrounded, round_ne_nan, isZero, isInfinite, hb]
    · rw [hrounded, isNegative_round]
      rfl
    · simp [isZero, isInfinite, hb]
    · have ha : a.val = 0 := by simpa [isZero, isInfinite] using h
      rw [hrounded, units_eq_zero_iff.2 ha, Nat.zero_mul]
      exact isZero_round_zero _ (Nat.pos_of_ne_zero (mt units_eq_zero_iff.1 hb))

theorem isQuotient_divide (x y : Binary64) : IsQuotient x y (x.divide y) := by
  cases x with
  | nan => constructor <;> simp [isFinite]
  | infinity s =>
    cases y <;> constructor <;> simp [isZero, isInfinite, isFinite, Binary64.isNegative]
  | finite s a =>
    cases y with
    | nan => constructor <;> simp [isFinite]
    | infinity t =>
      constructor <;> simp [isZero, isInfinite, isFinite, Binary64.isNegative, Binary64.zero]
    | finite t b =>
      rw [finite_divide_finite]
      exact isQuotient_signedQuotient s t a b

theorem eq_infinity_of_isInfinite {x : Binary64} (h : x.isInfinite = true) :
    x = infinity x.isNegative := by
  cases x with
  | nan => cases h
  | infinity s => rfl
  | finite s a => cases h

theorem eq_zero_of_isZero {x : Binary64} (h : x.isZero = true) : x = zero x.isNegative := by
  cases x with
  | nan => cases h
  | infinity s => cases h
  | finite s a => exact congrArg (finite s) (Fin.ext (of_decide_eq_true h))

theorem isFinite_of_ne_nan {x : Binary64} (hnan : x ≠ nan) (hinf : x.isInfinite = false) :
    x.isFinite = true := by
  cases x with
  | nan => exact absurd rfl hnan
  | infinity s => cases hinf
  | finite s a => rfl

theorem IsQuotient.unique {x y q r : Binary64} (hq : IsQuotient x y q) (hr : IsQuotient x y r) :
    q = r := by
  by_cases hnan : q = nan
  · rw [hnan, hr.nan_iff.2 (hq.nan_iff.1 hnan)]
  have hnan' : r ≠ nan := fun h => hnan (hq.nan_iff.2 (hr.nan_iff.1 h))
  have hsign : q.isNegative = r.isNegative := (hq.isNegative hnan).trans (hr.isNegative hnan').symm
  by_cases hinf : y.isZero = true ∨ x.isInfinite = true
  · rw [eq_infinity_of_isInfinite (hq.infinite hnan hinf), hsign,
      ← eq_infinity_of_isInfinite (hr.infinite hnan' hinf)]
  by_cases hzero : x.isZero = true ∨ y.isInfinite = true
  · rw [eq_zero_of_isZero (hq.zero hnan hzero), hsign,
      ← eq_zero_of_isZero (hr.zero hnan' hzero)]
  · simp only [not_or, Bool.not_eq_true] at hinf hzero
    have hx := isFinite_of_ne_nan (fun h => hnan (hq.nan_iff.2 (.inl h))) hinf.2
    have hy := isFinite_of_ne_nan (fun h => hnan (hq.nan_iff.2 (.inr (.inl h)))) hzero.2
    exact (hq.rounded hx hy hzero.1 hinf.1).unique (hr.rounded hx hy hzero.1 hinf.1)

/-- **The quotient is the format's.** The evaluation of a quotient does not fault; what it gives,
and nothing else, is the quotient that the format prescribes; and a change of either sign changes
that of the quotient. -/
theorem apply_divide_isQuotient (x y : Binary64) :
    tryDivide x y = .ok ((Operator.multiplicative .divide).apply x y) ∧
      (∀ q, IsQuotient x y q ↔ (Operator.multiplicative .divide).apply x y = q) ∧
      (Operator.multiplicative .divide).apply x.neg y =
        ((Operator.multiplicative .divide).apply x y).neg ∧
      (Operator.multiplicative .divide).apply x y.neg =
        ((Operator.multiplicative .divide).apply x y).neg := by
  refine ⟨tryDivide_eq x y, fun q => ⟨(isQuotient_divide x y).unique, ?_⟩, neg_divide x y,
    divide_neg x y⟩
  rintro rfl
  exact isQuotient_divide x y

end Calculator.Binary64
