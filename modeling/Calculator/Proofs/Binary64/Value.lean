/-
Finite numbers as rationals, and what it means that a number is a rational
correctly rounded (`IsRounded`).

From the midpoint behind the largest number on, a rational is rounded to an
infinity. Any other is rounded to a finite number: none is nearer, and where
another one is as near, the significand is even. The sign is that of the
rational, also where it is rounded to zero. There is one such number
(`IsRounded.unique`), and it is the one that `round` gives (`isRounded_round`).
-/
import Calculator.Proofs.Binary64.Rounding
import Mathlib

namespace Calculator.Binary64

/-! ## Rationals -/

/-- The rational that a magnitude is. -/
def magnitude (rank : Nat) : ℚ := units rank / unit

/-- The rational that a finite number is. -/
def toRat : Binary64 → ℚ
  | finite negative rank => if negative then -magnitude rank else magnitude rank
  | _ => 0

theorem unit_pos_rat : (0 : ℚ) < unit := by exact_mod_cast unit_pos

theorem magnitude_nonneg (rank : Nat) : 0 ≤ magnitude rank :=
  div_nonneg (Nat.cast_nonneg _) (Nat.cast_nonneg _)

theorem magnitude_strictMono : StrictMono magnitude := fun _ _ h =>
  (div_lt_div_iff_of_pos_right unit_pos_rat).2 (by exact_mod_cast units_strictMono h)

theorem magnitude_eq_zero_iff {rank : Nat} : magnitude rank = 0 ↔ rank = 0 := by
  rw [magnitude, div_eq_zero_iff, or_iff_left unit_pos_rat.ne', Nat.cast_eq_zero,
    units_eq_zero_iff]

theorem abs_toRat_finite (negative : Bool) (rank : Fin ranks) :
    |(finite negative rank).toRat| = magnitude rank := by
  cases negative with
  | false => exact abs_of_nonneg (magnitude_nonneg _)
  | true => exact (abs_neg _).trans (abs_of_nonneg (magnitude_nonneg _))

theorem toInt?_eq_some_iff {x : Binary64} {n : ℤ} :
    x.toInt? = some n ↔ x.isFinite = true ∧ x.toRat = n := by
  constructor
  · intro h
    obtain ⟨negative, rank, rfl, hunits, hn⟩ := exists_units_of_toInt? h
    have hmagnitude : magnitude rank = n.natAbs := by
      rw [magnitude, hunits, Nat.cast_mul, mul_div_cancel_right₀ _ unit_pos_rat.ne']
    refine ⟨rfl, ?_⟩
    rw [hn, toRat, hmagnitude]
    cases negative <;> simp
  · rintro ⟨hfinite, hn⟩
    cases x with
    | nan => cases hfinite
    | infinity negative => cases hfinite
    | finite negative rank =>
      have hmagnitude : magnitude rank = n.natAbs := by
        rw [← abs_toRat_finite negative rank, hn, Nat.cast_natAbs, Int.cast_abs]
      have hunits : units rank = n.natAbs * unit := by
        rw [magnitude, div_eq_iff unit_pos_rat.ne'] at hmagnitude
        exact_mod_cast hmagnitude
      rw [toInt?, hunits, Nat.mul_mod_left, if_pos rfl, Nat.mul_div_cancel _ unit_pos]
      rw [toRat, hmagnitude, ← Int.cast_natCast] at hn
      cases negative with
      | false => exact congrArg some (Int.cast_injective hn)
      | true => exact congrArg some (Int.cast_injective ((Int.cast_neg _).trans hn))

/-! ## Nearest magnitudes -/

/-- What lies on the one side of a point is not nearer if their midpoint is on that side, and as
near only if the midpoint is the point itself. -/
theorem nearer_of_midpoint_le {q x y : ℚ} (hlt : y < x) (hmid : y + x ≤ 2 * q) :
    |q - x| ≤ |q - y| ∧ (|q - x| = |q - y| → y + x = 2 * q) := by
  have hy : |q - y| = q - y := abs_of_nonneg (by linarith)
  rw [hy]
  refine ⟨abs_le.2 ⟨by linarith, by linarith⟩, fun h => ?_⟩
  obtain ⟨hx, -⟩ | ⟨hx, -⟩ := abs_cases (q - x) <;> linarith

theorem nearer_of_le_midpoint {q x y : ℚ} (hlt : x < y) (hmid : 2 * q ≤ x + y) :
    |q - x| ≤ |q - y| ∧ (|q - x| = |q - y| → 2 * q = x + y) := by
  have hy : |q - y| = y - q := by rw [abs_sub_comm]; exact abs_of_nonneg (by linarith)
  rw [hy]
  refine ⟨abs_le.2 ⟨by linarith, by linarith⟩, fun h => ?_⟩
  obtain ⟨hx, -⟩ | ⟨hx, -⟩ := abs_cases (q - x) <;> linarith

theorem magnitude_add (r s : Nat) :
    magnitude r + magnitude s = (units r + units s : Nat) / unit := by
  rw [magnitude, magnitude, ← add_div, Nat.cast_add]

/-- A fraction of units that lies in the cell of a rank lies between midpoints of magnitudes. -/
theorem RoundsTo.midpoints {a d r : Nat} {q : ℚ} (h : RoundsTo a d r) (hd : 0 < d)
    (hq : q * (d * unit) = a) :
    magnitude (r - 1) + magnitude r ≤ 2 * q ∧ 2 * q ≤ magnitude r + magnitude (r + 1) ∧
      (magnitude (r - 1) + magnitude r = 2 * q ∨ 2 * q = magnitude r + magnitude (r + 1) →
        r % 2 = 0) := by
  have hd' : (0 : ℚ) < d := by exact_mod_cast hd
  have htwice : ((2 * a : Nat) : ℚ) = 2 * q * unit * d := by
    rw [Nat.cast_mul, ← hq]
    push_cast
    ring
  have hle : ∀ ends : Nat, (ends : ℚ) / unit ≤ 2 * q ↔ ends * d ≤ 2 * a := fun ends => by
    rw [div_le_iff₀ unit_pos_rat, ← mul_le_mul_iff_of_pos_right hd', ← htwice]
    exact_mod_cast Iff.rfl
  have hge : ∀ ends : Nat, 2 * q ≤ (ends : ℚ) / unit ↔ 2 * a ≤ ends * d := fun ends => by
    rw [le_div_iff₀ unit_pos_rat, ← mul_le_mul_iff_of_pos_right hd', ← htwice]
    exact_mod_cast Iff.rfl
  simp only [magnitude_add]
  refine ⟨(hle _).2 h.lower, (hge _).2 h.upper,
    fun heq => h.even (heq.imp (fun heq => ?_) fun heq => ?_)⟩
  · exact Nat.le_antisymm ((hle _).1 heq.le) ((hge _).1 heq.ge)
  · exact Nat.le_antisymm ((hge _).1 heq.le) ((hle _).1 heq.ge)

/-- **The magnitude in whose cell a fraction lies is the nearest,** or it is even. -/
theorem RoundsTo.nearest {a d r : Nat} {q : ℚ} (h : RoundsTo a d r) (hd : 0 < d)
    (hq : q * (d * unit) = a) (s : Nat) :
    |q - magnitude r| ≤ |q - magnitude s| ∧
      (|q - magnitude r| = |q - magnitude s| → s ≠ r → r % 2 = 0) := by
  obtain ⟨hlower, hupper, heven⟩ := h.midpoints hd hq
  obtain hlt | rfl | hlt := Nat.lt_trichotomy s r
  · have hs : magnitude s ≤ magnitude (r - 1) := magnitude_strictMono.monotone (by omega)
    obtain ⟨hle, htie⟩ := nearer_of_midpoint_le (magnitude_strictMono hlt)
      (by linarith : magnitude s + magnitude r ≤ 2 * q)
    exact ⟨hle, fun heq _ => heven (.inl (by linarith [htie heq]))⟩
  · exact ⟨le_refl _, fun _ hne => absurd rfl hne⟩
  · have hs : magnitude (r + 1) ≤ magnitude s := magnitude_strictMono.monotone hlt
    obtain ⟨hle, htie⟩ := nearer_of_le_midpoint (magnitude_strictMono hlt)
      (by linarith : 2 * q ≤ magnitude r + magnitude s)
    exact ⟨hle, fun heq _ => heven (.inr (by linarith [htie heq]))⟩

/-! ## Rounded rationals -/

/-- The number is the rational correctly rounded. -/
inductive IsRounded (q : ℚ) : Binary64 → Prop where
  /-- The rational is past the midpoint behind the largest number, or on it. -/
  | past (large : (leastTooLarge : ℚ) ≤ |q|) : IsRounded q (infinity (q < 0))
  /-- No finite number is nearer to the rational, and another one is as near only if the significand
  is even. -/
  | within {rank : Fin ranks} (small : |q| < leastTooLarge)
      (nearest : ∀ y : Binary64, y.isFinite = true →
        |q - (finite (q < 0) rank).toRat| ≤ |q - y.toRat|)
      (even : ∀ y : Binary64, y.isFinite = true → y.toRat ≠ (finite (q < 0) rank).toRat →
        |q - (finite (q < 0) rank).toRat| = |q - y.toRat| → significand rank % 2 = 0) :
      IsRounded q (finite (q < 0) rank)

theorem significand_mod_two (rank : Nat) : significand rank % 2 = rank % 2 := by
  have hrank := rank_eq rank
  rw [pow_two_52] at hrank
  omega

theorem abs_sub_toRat (q : ℚ) (rank : Fin ranks) :
    |q - (finite (q < 0) rank).toRat| = |(|q| - magnitude rank)| := by
  by_cases hq : q < 0
  · rw [decide_eq_true hq, abs_of_neg hq, toRat, if_pos rfl, abs_sub_comm]
    congr 1
    ring
  · rw [decide_eq_false hq, abs_of_nonneg (not_lt.1 hq), toRat, if_neg Bool.false_ne_true]

theorem abs_sub_toRat_not (q : ℚ) (rank : Fin ranks) :
    |q - (finite (!decide (q < 0)) rank).toRat| = |q| + magnitude rank := by
  have hpos := magnitude_nonneg rank
  by_cases hq : q < 0
  · rw [decide_eq_true hq, abs_of_neg hq, toRat, Bool.not_true, if_neg Bool.false_ne_true,
      abs_of_neg (by linarith)]
    ring
  · rw [decide_eq_false hq, abs_of_nonneg (not_lt.1 hq), toRat, Bool.not_false, if_pos rfl,
      sub_neg_eq_add, abs_of_nonneg (by linarith)]

theorem isRounded_within {q : ℚ} {rank : Fin ranks} (small : |q| < leastTooLarge)
    (h : ∀ s : Nat, |(|q| - magnitude rank)| ≤ |(|q| - magnitude s)| ∧
      (|(|q| - magnitude rank)| = |(|q| - magnitude s)| → s ≠ rank → (rank : Nat) % 2 = 0)) :
    IsRounded q (finite (q < 0) rank) := by
  have hfar : ∀ t (s : Fin ranks), |(|q| - magnitude s)| ≤ |q - (finite t s).toRat| := fun t s => by
    rw [← abs_toRat_finite t s]
    exact abs_abs_sub_abs_le _ _
  refine .within small (fun y hy => ?_) fun y hy hne heq => ?_
  · cases y with
    | nan => cases hy
    | infinity t => cases hy
    | finite t s =>
      rw [abs_sub_toRat]
      exact (h s).1.trans (hfar t s)
  · cases y with
    | nan => cases hy
    | infinity t => cases hy
    | finite t s =>
      rw [abs_sub_toRat] at heq
      rw [significand_mod_two]
      by_cases hs : s = rank
      -- Numbers of the same magnitude are as near only if it is zero.
      · subst hs
        have ht : t = !decide (q < 0) := Bool.eq_not.2 fun ht => hne (by rw [ht])
        rw [ht, abs_sub_toRat_not] at heq
        have hzero : magnitude s = 0 := by
          have hnearest := (h 0).1
          rw [magnitude_eq_zero_iff.2 rfl, sub_zero, abs_abs] at hnearest
          linarith [magnitude_nonneg s]
        rw [magnitude_eq_zero_iff.1 hzero]
      · exact (h s).2 (le_antisymm (h s).1 ((hfar t s).trans heq.ge)) fun heq => hs (Fin.ext heq)

/-- **Rounding is correct.** -/
theorem isRounded_round {q : ℚ} {a d : Nat} (hd : 0 < d) (hq : |q| * (d * unit) = a) :
    IsRounded q (round (q < 0) a d) := by
  have hpos : (0 : ℚ) < d * unit := mul_pos (by exact_mod_cast hd) unit_pos_rat
  have hlarge : ranks ≤ nearestRank a d ↔ (leastTooLarge : ℚ) ≤ |q| := by
    rw [ranks_le_nearestRank_iff a hd, ← mul_le_mul_iff_of_pos_right hpos, hq, Nat.mul_right_comm,
      Nat.mul_assoc]
    exact_mod_cast Iff.rfl
  rw [round, round?]
  split
  next hlt =>
    exact isRounded_within (not_le.1 fun hle => Nat.not_le.2 hlt (hlarge.2 hle))
      ((roundsTo_nearestRank a hd).nearest hd hq)
  next hge => exact .past (hlarge.1 (Nat.not_lt.1 hge))

/-- Of two magnitudes that are as near to a rational, one between them is nearer. -/
theorem abs_sub_lt_of_between {c l m u : ℚ} (hl : l < m) (hu : m < u) (heq : |c - l| = |c - u|) :
    |c - m| < |c - l| := by
  have hlc : |c - l| = c - l := by
    obtain ⟨h, -⟩ | ⟨h, hneg⟩ := abs_cases (c - l)
    · exact h
    · obtain ⟨hu', -⟩ | ⟨hu', -⟩ := abs_cases (c - u) <;> linarith
  have huc : |c - u| = u - c := by
    obtain ⟨h, hpos⟩ | ⟨h, -⟩ := abs_cases (c - u) <;> linarith
  rw [hlc]
  exact abs_lt.2 ⟨by linarith, by linarith⟩

theorem not_lt_of_nearest {q : ℚ} {r s : Fin ranks} (parity : (r : Nat) % 2 = s % 2)
    (as_near : |q - (finite (q < 0) r).toRat| = |q - (finite (q < 0) s).toRat|)
    (nearest : ∀ y : Binary64, y.isFinite = true →
      |q - (finite (q < 0) r).toRat| ≤ |q - y.toRat|) : ¬r < s := by
  intro hlt
  have hnext : r.val + 1 < s.val := by
    have hne : r.val + 1 ≠ s.val := by omega
    exact Nat.lt_of_le_of_ne hlt hne
  have hle := nearest (finite (q < 0) ⟨r.val + 1, Nat.lt_trans hnext s.isLt⟩) rfl
  rw [abs_sub_toRat, abs_sub_toRat] at as_near hle
  exact absurd (abs_sub_lt_of_between (magnitude_strictMono (Nat.lt_succ_self r.val))
    (magnitude_strictMono hnext) as_near) (not_lt.2 hle)

/-- **A rational is correctly rounded in one way only.** -/
theorem IsRounded.unique {q : ℚ} {x y : Binary64} (hx : IsRounded q x) (hy : IsRounded q y) :
    x = y := by
  cases hx with
  | past large =>
    cases hy with
    | past _ => rfl
    | within small _ _ => exact absurd small (not_lt.2 large)
  | @within r small nearest even =>
    cases hy with
    | past large => exact absurd small (not_lt.2 large)
    | @within s _ nearest' even' =>
      have as_near := le_antisymm (nearest (finite (q < 0) s) rfl) (nearest' (finite (q < 0) r) rfl)
      have hinj : (finite (q < 0) s).toRat = (finite (q < 0) r).toRat → s = r := fun h => by
        have hmagnitude := congrArg (|·|) h
        simp only [abs_toRat_finite] at hmagnitude
        exact Fin.ext (magnitude_strictMono.injective hmagnitude)
      by_cases hrs : s = r
      · rw [hrs]
      · have hr := even (finite (q < 0) s) rfl (mt hinj hrs) as_near
        have hs := even' (finite (q < 0) r) rfl (fun h => hrs (hinj h.symm)) as_near.symm
        rw [significand_mod_two] at hr hs
        have hle := not_lt_of_nearest (hs.trans hr.symm) as_near.symm nearest'
        have hge := not_lt_of_nearest (hr.trans hs.symm) as_near nearest
        exact absurd (le_antisymm (not_lt.1 hge) (not_lt.1 hle)) hrs

end Calculator.Binary64
