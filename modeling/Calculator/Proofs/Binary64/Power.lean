/-
The special cases of a power, and what becomes of it when its base changes sign
(`PowerLaws`).

A power may be refused by the machine as undefined or as too large, and what is
given then is made up from the signs and from whether the exponent is odd. The
laws hold across this: they are about results, wherever these come from. For a
change of sign the two powers are in the same case, because a base and its
negative are refused together where the exponent is an integer
(`isUndefinedPower_neg`) and have powers of the same magnitude otherwise
(`definedPower_neg`).
-/
import Calculator.Expr.Evaluation
import Calculator.Proofs.Binary64.Faults
import Calculator.Proofs.Binary64.Value

namespace Calculator.Binary64

/-! ## Numbers of the other sign -/

@[simp] theorem isZero_neg (x : Binary64) : x.neg.isZero = x.isZero := by cases x <;> rfl

@[simp] theorem isFinite_neg (x : Binary64) : x.neg.isFinite = x.isFinite := by cases x <;> rfl

@[simp] theorem isInfinite_neg (x : Binary64) : x.neg.isInfinite = x.isInfinite := by
  cases x <;> rfl

theorem isNegative_neg {x : Binary64} (hx : x ≠ nan) : x.neg.isNegative = !x.isNegative := by
  cases x with
  | nan => exact absurd rfl hx
  | infinity s => rfl
  | finite s a => rfl

theorem ne_nan_of_isFinite {x : Binary64} (hx : x.isFinite = true) : x ≠ nan := by
  rintro rfl
  cases hx

/-! ## Integers as exponents -/

theorem isOdd_eq_true_iff {x : Binary64} :
    x.isOdd = true ↔ ∃ n : ℤ, x.isFinite = true ∧ x.toRat = n ∧ n % 2 = 1 := by
  simp only [isOdd, Option.any_eq_true, decide_eq_true_eq, toInt?_eq_some_iff, and_assoc]

theorem isOdd_of_toInt? {x : Binary64} {n : ℤ} (h : x.toInt? = some n) :
    x.isOdd = decide (n % 2 = 1) := by
  rw [isOdd, h, Option.any_some]

theorem toInt?_eq_none_of_toRat {x : Binary64} (h : ∀ n : ℤ, x.toRat ≠ n) : x.toInt? = none :=
  Option.eq_none_iff_forall_ne_some.2 fun n hn => h n (toInt?_eq_some_iff.1 hn).2

theorem toInt?_of_isZero {x : Binary64} (h : x.isZero = true) : x.toInt? = some 0 := by
  cases x with
  | nan => cases h
  | infinity s => cases h
  | finite s a =>
    refine toInt?_eq_some_iff.2 ⟨rfl, ?_⟩
    have ha : magnitude a = 0 := magnitude_eq_zero_iff.2 (of_decide_eq_true h)
    cases s <;> simp [toRat, ha]

theorem isUnit_eq_true_iff {x : Binary64} : x.isUnit = true ↔ |x.toRat| = 1 := by
  cases x with
  | nan => simp [isUnit, toRat]
  | infinity s => simp [isUnit, toRat]
  | finite s a =>
    have hone : magnitude rankOfOne = 1 := by
      have hunits : units rankOfOne = unit := by decide +kernel
      rw [magnitude, hunits, div_self unit_pos_rat.ne']
    rw [abs_toRat_finite, ← hone, magnitude_strictMono.injective.eq_iff]
    exact decide_eq_true_iff

theorem isBelowZero_of_toRat {x : Binary64} (h : x.toRat < 0) : x.isBelowZero = true := by
  cases x with
  | nan => exact absurd h (lt_irrefl 0)
  | infinity s => exact absurd h (lt_irrefl 0)
  | finite s a =>
    cases s with
    | false => exact absurd h (not_lt.2 (magnitude_nonneg a))
    | true =>
      have ha : a.val ≠ 0 := fun ha => by simp [toRat, magnitude_eq_zero_iff.2 ha] at h
      simp [isBelowZero, isNegative, isZero, ha]

/-! ## Cases of the power -/

theorem power_eq_nan {x y : Binary64} (h : y = nan ∨ (y.isInfinite = true ∧ x.isUnit = true)) :
    x.power y = nan := if_pos h

/-- To a finite exponent the power is what the machine's is, or is made of its refusal. -/
theorem power_of_isFinite (x : Binary64) {y : Binary64} (hy : y.isFinite = true) :
    x.power y =
      if isUndefinedPower x y then
        (if x.isZero then infinity (y.isOdd && x.isNegative) else nan)
      else if x.isFinite && (definedPower x y).isInfinite then infinity (x.isNegative && y.isOdd)
      else definedPower x y := by
  cases y with
  | nan => cases hy
  | infinity t => cases hy
  | finite t b =>
    rw [power, if_neg (by simp [isInfinite]), power?]
    by_cases hdefined : isUndefinedPower x (finite t b) = true
    · simp only [if_pos hdefined]
    · have hfinite : (finite t b).isFinite = true := rfl
      simp only [if_neg hdefined, hfinite, Bool.and_true]
      cases x.isFinite && (definedPower x (finite t b)).isInfinite <;> rfl

theorem power_of_isZero (x : Binary64) {y : Binary64} (hy : y.isZero = true) :
    x.power y = one := by
  have hfinite := isFinite_of_toInt? (toInt?_of_isZero hy)
  have hdefined : isUndefinedPower x y = false := by
    simp [isUndefinedPower, hy, toInt?_of_isZero hy]
  have hone : definedPower x y = one := by
    cases y with
    | nan => cases hy
    | infinity t => cases hy
    | finite t b => exact if_pos (of_decide_eq_true hy)
  have hsmall : one.isInfinite = false := rfl
  simp [power_of_isFinite x hfinite, hdefined, hone, hsmall]

/-- A zero to a power below zero is an infinity. -/
theorem zero_power {x y : Binary64} (hx : x.isZero = true) (hy : y.isBelowZero = true) :
    x.power y = infinity (y.isOdd && x.isNegative) := by
  cases y with
  | nan => cases hy
  | infinity t =>
    have ht : t = true := by simpa [isBelowZero, isNegative, isZero] using hy
    subst ht
    cases x with
    | nan => cases hx
    | infinity s => cases hx
    | finite s a =>
      have ha : a.val = 0 := of_decide_eq_true hx
      have hone : ¬a.val = rankOfOne := by rw [ha]; decide
      have hless : a.val < rankOfOne := by rw [ha]; decide
      simp [power, power?, definedPower, powerToInfinity, isUndefinedPower, isFinite, isInfinite,
        isUnit, isOdd, toInt?, hone, hless]
  | finite t b =>
    have hundefined : isUndefinedPower x (finite t b) = true := by
      simp only [isUndefinedPower, hx, Bool.true_and, Bool.and_eq_true, Bool.or_eq_true]
      exact ⟨rfl, .inl (by simpa [isBelowZero] using hy)⟩
    rw [power_of_isFinite x rfl, if_pos hundefined, if_pos hx]

theorem power_of_fraction {x y : Binary64} (hx : x.isFinite = true) (hneg : x.isBelowZero = true)
    (hy : y.isFinite = true) (hfraction : y.toInt? = none) : x.power y = nan := by
  obtain ⟨hsign, hzero⟩ : x.isNegative = true ∧ x.isZero = false := by
    simpa [isBelowZero] using hneg
  have hundefined : isUndefinedPower x y = true := by
    simp [isUndefinedPower, hx, hsign, hzero, hy, hfraction]
  rw [power_of_isFinite x hy, if_pos hundefined, hzero, if_neg Bool.false_ne_true]

/-! ## A base of the other sign -/

theorem isUndefinedPower_neg (x : Binary64) {y : Binary64} {n : ℤ} (hy : y.toInt? = some n) :
    isUndefinedPower x.neg y = isUndefinedPower x y := by
  simp [isUndefinedPower, hy]

/-- The sign of the base is the sign of an odd power, and does not matter for any other. -/
theorem definedPower_neg (x : Binary64) {y : Binary64} (hy : y.isFinite = true) :
    definedPower x.neg y = if y.isOdd then (definedPower x y).neg else definedPower x y := by
  cases y with
  | nan => cases hy
  | infinity t => cases hy
  | finite t b =>
    have habs : x.neg.abs = x.abs := by cases x <;> rfl
    unfold definedPower
    by_cases hb : b.val = 0
    · have hodd : (finite t b).isOdd = false := by
        have hzero : (finite t b).isZero = true := decide_eq_true hb
        rw [isOdd_of_toInt? (toInt?_of_isZero hzero)]
        rfl
      simp only [if_pos hb, hodd, Bool.false_eq_true, if_false]
    · simp only [if_neg hb, habs]
      cases (finite t b).isOdd with
      | false => simp only [Bool.and_false, Bool.false_eq_true, if_false]
      | true =>
        by_cases hx : x = nan
        · subst hx
          rfl
        · rw [isNegative_neg hx]
          cases x.isNegative <;> simp [neg_neg]

/-- **The sign of the base is the sign of an odd power, and does not matter for an even one,**
whether the power is defined, too large or undefined. -/
theorem neg_power (x : Binary64) {y : Binary64} {n : ℤ} (hy : y.toInt? = some n) :
    x.neg.power y = if n % 2 = 1 then (x.power y).neg else x.power y := by
  have hfinite := isFinite_of_toInt? hy
  rw [power_of_isFinite x hfinite, power_of_isFinite x.neg hfinite, isUndefinedPower_neg x hy,
    definedPower_neg x hfinite, isOdd_of_toInt? hy]
  by_cases hodd : n % 2 = 1
  · simp only [hodd, decide_true, Bool.true_and, Bool.and_true, if_true, isZero_neg, isFinite_neg,
      isInfinite_neg]
    by_cases hundefined : isUndefinedPower x y = true
    · rw [if_pos hundefined, if_pos hundefined]
      by_cases hzero : x.isZero = true
      · rw [if_pos hzero, if_pos hzero,
          isNegative_neg (ne_nan_of_isFinite (isFinite_of_toInt? (toInt?_of_isZero hzero)))]
        rfl
      · rw [if_neg hzero, if_neg hzero]
        rfl
    · rw [if_neg hundefined, if_neg hundefined]
      by_cases hlarge : (x.isFinite && (definedPower x y).isInfinite) = true
      · rw [if_pos hlarge, if_pos hlarge,
          isNegative_neg (ne_nan_of_isFinite (Bool.and_eq_true_iff.1 hlarge).1)]
        rfl
      · rw [if_neg hlarge, if_neg hlarge]
  · simp only [hodd, decide_false, Bool.false_and, Bool.and_false, Bool.false_eq_true, if_false,
      isZero_neg, isFinite_neg]

/-! ## The laws -/

/-- The special cases of a power, and what becomes of it when its base changes sign. -/
structure PowerLaws (pow : Binary64 → Binary64 → Binary64) : Prop where
  /-- Nan as exponent gives nan, and so does an infinity at magnitude one. -/
  undetermined (x y : Binary64) :
    y = nan ∨ (y.isInfinite = true ∧ |x.toRat| = 1) → pow x y = nan
  /-- Everything to the power zero is one. -/
  exponent_zero (x y : Binary64) : y.isZero = true → pow x y = one
  /-- A zero to an odd power below zero is the infinity of its sign. -/
  zero_odd (x y : Binary64) (n : ℤ) : x.isZero = true → y.isFinite = true → y.toRat = n → n < 0 →
    n % 2 = 1 → pow x y = infinity x.isNegative
  /-- A zero to any other power below zero is plus infinity. -/
  zero_other (x y : Binary64) : x.isZero = true → y.isBelowZero = true →
    (¬∃ n : ℤ, y.isFinite = true ∧ y.toRat = n ∧ n % 2 = 1) → pow x y = infinity false
  /-- A number below zero to a power that is no integer is nan. -/
  fraction (x y : Binary64) : x.isFinite = true → x.isBelowZero = true → y.isFinite = true →
    (∀ n : ℤ, y.toRat ≠ n) → pow x y = nan
  neg_even (x y : Binary64) (n : ℤ) : y.isFinite = true → y.toRat = n → n % 2 = 0 →
    pow x.neg y = pow x y
  neg_odd (x y : Binary64) (n : ℤ) : y.isFinite = true → y.toRat = n → n % 2 = 1 →
    pow x.neg y = (pow x y).neg

/-- **The power keeps the laws.** -/
theorem apply_power_laws : PowerLaws (Operator.apply .power) where
  undetermined x y h := power_eq_nan (h.imp_right fun h => ⟨h.1, isUnit_eq_true_iff.2 h.2⟩)
  exponent_zero x y hy := power_of_isZero x hy
  zero_odd x y n hx hy hn hneg hodd := by
    have hbelow : y.isBelowZero = true :=
      isBelowZero_of_toRat (by rw [hn]; exact_mod_cast hneg)
    rw [Operator.apply, zero_power hx hbelow, isOdd_eq_true_iff.2 ⟨n, hy, hn, hodd⟩,
      Bool.true_and]
  zero_other x y hx hy hodd := by
    rw [Operator.apply, zero_power hx hy, Bool.eq_false_iff.2 (mt isOdd_eq_true_iff.1 hodd),
      Bool.false_and]
  fraction x y hx hneg hy hfraction :=
    power_of_fraction hx hneg hy (toInt?_eq_none_of_toRat hfraction)
  neg_even x y n hy hn heven := by
    rw [Operator.apply, neg_power x (toInt?_eq_some_iff.2 ⟨hy, hn⟩), if_neg (by omega)]
  neg_odd x y n hy hn hodd := by
    rw [Operator.apply, neg_power x (toInt?_eq_some_iff.2 ⟨hy, hn⟩), if_pos hodd]

/-- The laws at exponents that are infinite, zero, odd, even, no integer, and too large. -/
theorem apply_power_laws_minus :
    Operator.power.apply one.neg (infinity true) = nan ∧
      Operator.power.apply nan (zero true) = one ∧
      Operator.power.apply (zero true) (ofInt (-3)) = infinity true ∧
      Operator.power.apply (zero true) (ofInt (-2)) = infinity false ∧
      Operator.power.apply (ofInt (-2)) (ofDecimal false 5 (-1)) = nan ∧
      Operator.power.apply (ofInt 2).neg (ofInt 4096) =
        Operator.power.apply (ofInt 2) (ofInt 4096) ∧
      Operator.power.apply (ofInt 2).neg (ofInt 4097) =
        (Operator.power.apply (ofInt 2) (ofInt 4097)).neg := by
  have laws := apply_power_laws
  have hinteger : ∀ n ∈ [-3, -2, 4096, 4097], (ofInt n).isFinite = true ∧ (ofInt n).toRat = n := by
    intro n hn
    have htoInt : ∀ n ∈ [-3, -2, 4096, 4097], (ofInt n).toInt? = some n := by decide +kernel
    exact toInt?_eq_some_iff.1 (htoInt n hn)
  obtain ⟨hodd, hoddRat⟩ := hinteger (-3) (by decide)
  obtain ⟨heven, hevenRat⟩ := hinteger (-2) (by decide)
  obtain ⟨hlargeEven, hlargeEvenRat⟩ := hinteger 4096 (by decide)
  obtain ⟨hlargeOdd, hlargeOddRat⟩ := hinteger 4097 (by decide)
  have hnotOdd : ¬∃ n : ℤ, (ofInt (-2)).isFinite = true ∧ (ofInt (-2)).toRat = n ∧ n % 2 = 1 :=
    mt isOdd_eq_true_iff.2 (by decide +kernel)
  have hfraction : ∀ n : ℤ, (ofDecimal false 5 (-1)).toRat ≠ n := fun n hn => by
    have hnone : (ofDecimal false 5 (-1)).toInt? = none := by decide +kernel
    exact Option.some_ne_none _ ((toInt?_eq_some_iff.2 ⟨by decide +kernel, hn⟩).symm.trans hnone)
  exact ⟨laws.undetermined _ _ (.inr ⟨rfl, isUnit_eq_true_iff.1 rfl⟩), laws.exponent_zero _ _ rfl,
    laws.zero_odd _ _ (-3) rfl hodd hoddRat (by decide) (by decide),
    laws.zero_other _ _ rfl (by decide +kernel) hnotOdd,
    laws.fraction _ _ heven (by decide +kernel) (by decide +kernel) hfraction,
    laws.neg_even _ _ 4096 hlargeEven hlargeEvenRat (by decide),
    laws.neg_odd _ _ 4097 hlargeOdd hlargeOddRat (by decide)⟩

end Calculator.Binary64
