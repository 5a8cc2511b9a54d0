/-
Rounding goes to the nearest magnitude, and a tie to the even one.

The midpoints between neighbouring magnitudes cut the line into cells, one for
each rank. A fraction is rounded to the rank in whose cell it lies; a midpoint
belongs to the even rank beside it (`RoundsTo`). `nearestRank` finds the cell
(`roundsTo_nearestRank`). What else is said of rounding comes from the order of
the cells: a larger fraction is not rounded to a smaller rank (`RoundsTo.le`), and
no rank of the format is left from the midpoint behind the last one on
(`ranks_le_nearestRank_iff`).
-/
import Calculator.Binary64.Shortest
import Calculator.Proofs.Binary64.Integer
import Mathlib.Order.Monotone.Basic

namespace Calculator.Binary64

/-! ## Neighbouring magnitudes -/

theorem unit_pos : 0 < unit := by decide +kernel

/-- A rank whose significand has carried into the next binade has the units that it would have had
without the carry. -/
theorem units_of_significand {p n : Nat} (hn : n ≤ Nat.pow 2 53)
    (normal : p = 0 ∨ Nat.pow 2 52 ≤ n) : units (p * Nat.pow 2 52 + n) = n * Nat.pow 2 p := by
  by_cases hcarry : n = Nat.pow 2 53
  · have hexp : exponent (p * Nat.pow 2 52 + n) = p + 1 := by
      simp only [exponent, hcarry, pow_two_52, pow_two_53]
      omega
    have hsig : significand (p * Nat.pow 2 52 + n) = Nat.pow 2 52 := by
      rw [significand, hexp, hcarry, pow_two_52, pow_two_53]
      omega
    rw [units, hexp, hsig, hcarry, ← pow_two_add, ← pow_two_add]
    congr 1
    omega
  · have hexp : exponent (p * Nat.pow 2 52 + n) = p := by
      simp only [exponent, pow_two_52, pow_two_53] at hn hcarry normal ⊢
      omega
    rw [units, significand, hexp, Nat.add_sub_cancel_left]

theorem units_succ (rank : Nat) : units (rank + 1) = units rank + Nat.pow 2 (exponent rank) := by
  have hlt := significand_lt rank
  have hnormal : exponent rank = 0 ∨ Nat.pow 2 52 ≤ significand rank + 1 :=
    (exponent_eq_zero_or rank).imp_right Nat.le_succ_of_le
  have hnext := units_of_significand (n := significand rank + 1) hlt hnormal
  rw [← Nat.add_assoc, ← rank_eq, Nat.succ_mul] at hnext
  exact hnext

theorem units_strictMono : StrictMono units := strictMono_nat_of_lt_succ fun rank => by
  rw [units_succ]
  exact Nat.lt_add_of_pos_right (pow_two_pos _)

/-! ## Midpoints -/

theorem twiceUpperEnd_eq (rank : Nat) : twiceUpperEnd rank = twiceLowerEnd (rank + 1) := rfl

theorem twiceLowerEnd_strictMono : StrictMono twiceLowerEnd :=
  strictMono_nat_of_lt_succ fun rank => by
    have hle : units (rank - 1) ≤ units rank := units_strictMono.monotone (Nat.sub_le ..)
    have hlt : units rank < units (rank + 1) := units_strictMono (Nat.lt_succ_self rank)
    simp only [twiceLowerEnd, Nat.add_sub_cancel]
    omega

/-! ## The scale -/

/-- At its scale a fraction has 53 bits at most, and 53 unless the scale is the smallest. -/
structure Scales (a d p : Nat) : Prop where
  lt : a < d * Nat.pow 2 (p + 53)
  normal : p = 0 ∨ d * Nat.pow 2 (p + 52) ≤ a

theorem scales_scale (a : Nat) {d : Nat} (hd : 0 < d) : Scales a d (scale a d) := by
  have ha₁ : a.log2 ≠ 0 → Nat.pow 2 a.log2 ≤ a := fun h =>
    Nat.log2_self_le (by rintro rfl; exact h rfl)
  have ha₂ : a < Nat.pow 2 (a.log2 + 1) := Nat.lt_log2_self
  have hd₁ : Nat.pow 2 d.log2 ≤ d := Nat.log2_self_le (Nat.ne_of_gt hd)
  have hd₂ : d < Nat.pow 2 (d.log2 + 1) := Nat.lt_log2_self
  unfold scale
  dsimp only
  generalize a.log2 = la at ha₁ ha₂ ⊢
  generalize d.log2 = ld at hd₁ hd₂ ⊢
  generalize hlow : la - (ld + 53) = low
  split
  next hlt =>
    refine ⟨hlt, ?_⟩
    by_cases hzero : low = 0
    · exact .inl hzero
    · refine .inr (Nat.le_of_lt (Nat.lt_of_lt_of_le ?_ (ha₁ (by omega))))
      have hsum : la = ld + 1 + (low + 52) := by omega
      rw [hsum, pow_two_add (ld + 1)]
      exact Nat.mul_lt_mul_of_pos_right hd₂ (pow_two_pos _)
  next hge =>
    refine ⟨?_, .inr ?_⟩
    · have hle : Nat.pow 2 (la + 1) ≤ Nat.pow 2 (ld + (low + 1 + 53)) := pow_two_le (by omega)
      rw [pow_two_add ld] at hle
      exact Nat.lt_of_lt_of_le ha₂ (Nat.le_trans hle (Nat.mul_le_mul_right _ hd₁))
    · rw [Nat.add_right_comm, Nat.add_assoc]
      exact Nat.le_of_not_lt hge

/-! ## The nearest integer -/

/-- The nearest integer is not further than a half from the fraction, and even if it is a half. -/
structure IsNearest (a d n : Nat) : Prop where
  below : 2 * (n * d) ≤ 2 * a + d
  above : 2 * a ≤ 2 * (n * d) + d
  even : 2 * (n * d) = 2 * a + d ∨ 2 * a = 2 * (n * d) + d → n % 2 = 0

theorem isNearest_nearest (a : Nat) {d : Nat} (hd : 0 < d) : IsNearest a d (nearest a d) := by
  have hdiv := Nat.div_add_mod a d
  have hmod := Nat.mod_lt a hd
  rw [Nat.mul_comm] at hdiv
  have hsucc : (a / d + 1) * d = a / d * d + d := Nat.succ_mul ..
  unfold nearest
  dsimp only
  split
  next hlt => exact ⟨by omega, by omega, by omega⟩
  next hge =>
  split
  next hgt => exact ⟨by omega, by omega, by omega⟩
  next hle =>
    obtain heven | hodd := Nat.mod_two_eq_zero_or_one (a / d)
    · rw [heven, Nat.add_zero]
      exact ⟨by omega, by omega, fun _ => heven⟩
    · rw [hodd]
      exact ⟨by omega, by omega, by omega⟩

/-- At its scale a fraction is rounded to a significand, or to one that carries. -/
theorem significand_bounds {a d p n : Nat} (hd : 0 < d * Nat.pow 2 p) (scales : Scales a d p)
    (h : IsNearest a (d * Nat.pow 2 p) n) :
    n ≤ Nat.pow 2 53 ∧ (p = 0 ∨ Nat.pow 2 52 ≤ n) := by
  obtain ⟨hlt, hnormal⟩ := scales
  obtain ⟨hbelow, habove, -⟩ := h
  rw [pow_two_add, ← Nat.mul_assoc] at hlt hnormal
  generalize d * Nat.pow 2 p = D at *
  refine ⟨Nat.le_of_not_lt fun hn => ?_, hnormal.imp_right fun hle => Nat.le_of_not_lt fun hn => ?_⟩
  · have hmul := Nat.mul_le_mul_right D hn
    rw [Nat.succ_mul, Nat.mul_comm (Nat.pow 2 53)] at hmul
    omega
  · have hmul := Nat.mul_le_mul_right D hn
    rw [Nat.succ_mul, Nat.mul_comm (Nat.pow 2 52)] at hmul
    omega

/-! ## Cells -/

/-- The fraction `a / d` of units lies in the cell of the rank: between the midpoints to the
neighbours, and on a midpoint only if the rank is even. -/
structure RoundsTo (a d rank : Nat) : Prop where
  lower : twiceLowerEnd rank * d ≤ 2 * a
  upper : 2 * a ≤ twiceUpperEnd rank * d
  even : twiceLowerEnd rank * d = 2 * a ∨ 2 * a = twiceUpperEnd rank * d → rank % 2 = 0

theorem le_exponent {p n : Nat} (normal : p = 0 ∨ Nat.pow 2 52 ≤ n) :
    p ≤ exponent (p * Nat.pow 2 52 + n) := by
  simp only [exponent, pow_two_52] at normal ⊢
  omega

theorem le_twiceUpperEnd {p n d : Nat} (hn : n ≤ Nat.pow 2 53)
    (normal : p = 0 ∨ Nat.pow 2 52 ≤ n) :
    2 * (n * (d * Nat.pow 2 p)) + d * Nat.pow 2 p ≤ twiceUpperEnd (p * Nat.pow 2 52 + n) * d := by
  have hunits := units_of_significand hn normal
  have hgap : Nat.pow 2 p ≤ Nat.pow 2 (exponent (p * Nat.pow 2 52 + n)) :=
    pow_two_le (le_exponent normal)
  have hnext := units_succ (p * Nat.pow 2 52 + n)
  have hends : 2 * (n * Nat.pow 2 p) + Nat.pow 2 p ≤ twiceUpperEnd (p * Nat.pow 2 52 + n) := by
    rw [twiceUpperEnd, hnext, hunits]
    omega
  have hmul := Nat.mul_le_mul_right d hends
  rwa [Nat.add_mul, Nat.mul_assoc, Nat.mul_assoc, Nat.mul_comm (Nat.pow 2 p) d] at hmul

/-- The lower midpoint is half a unit of the scale below the significand, -/
theorem twiceLowerEnd_eq {p n d : Nat} (hn : n ≤ Nat.pow 2 53) (hpos : 0 < n)
    (normal : p = 0 ∨ Nat.pow 2 52 < n) :
    twiceLowerEnd (p * Nat.pow 2 52 + n) * d + d * Nat.pow 2 p = 2 * (n * (d * Nat.pow 2 p)) := by
  obtain ⟨m, rfl⟩ : ∃ m, n = m + 1 := ⟨n - 1, by omega⟩
  have hunits := units_of_significand hn (normal.imp_right Nat.le_of_lt)
  have hprevious := units_of_significand (Nat.le_of_lt hn) (normal.imp_right Nat.le_of_lt_succ)
  have hends : twiceLowerEnd (p * Nat.pow 2 52 + (m + 1)) + Nat.pow 2 p =
      2 * ((m + 1) * Nat.pow 2 p) := by
    rw [twiceLowerEnd, hunits, ← Nat.add_assoc, Nat.add_sub_cancel, hprevious, Nat.succ_mul]
    omega
  have hmul : (twiceLowerEnd (p * Nat.pow 2 52 + (m + 1)) + Nat.pow 2 p) * d =
      2 * ((m + 1) * Nat.pow 2 p) * d := by rw [hends]
  rwa [Nat.add_mul, Nat.mul_assoc, Nat.mul_assoc, Nat.mul_comm (Nat.pow 2 p) d] at hmul

/-- and a quarter of it if the significand is the least of its binade. -/
theorem twiceLowerEnd_lt_mul {p n d : Nat} (hd : 0 < d) (hn : n ≤ Nat.pow 2 53) (hpos : 0 < n)
    (normal : p = 0 ∨ Nat.pow 2 52 ≤ n) :
    twiceLowerEnd (p * Nat.pow 2 52 + n) * d < 2 * (n * (d * Nat.pow 2 p)) := by
  have hunits := units_of_significand hn normal
  have hprevious : units (p * Nat.pow 2 52 + n - 1) < units (p * Nat.pow 2 52 + n) :=
    units_strictMono (by omega)
  have hends : twiceLowerEnd (p * Nat.pow 2 52 + n) < 2 * (n * Nat.pow 2 p) := by
    rw [twiceLowerEnd]
    omega
  have hmul := Nat.mul_lt_mul_of_pos_right hends hd
  rwa [Nat.mul_assoc, Nat.mul_assoc, Nat.mul_comm (Nat.pow 2 p) d] at hmul

/-- **Rounding finds the cell.** -/
theorem roundsTo_nearestRank (a : Nat) {d : Nat} (hd : 0 < d) :
    RoundsTo a d (nearestRank a d) := by
  have scales := scales_scale a hd
  unfold nearestRank
  dsimp only
  generalize scale a d = p at scales ⊢
  have hD : 0 < d * Nat.pow 2 p := Nat.mul_pos hd (pow_two_pos p)
  have hnearest := isNearest_nearest a hD
  generalize nearest a (d * Nat.pow 2 p) = n at hnearest ⊢
  obtain ⟨hn, hnormal⟩ := significand_bounds hD scales hnearest
  obtain ⟨hbelow, habove, heven⟩ := hnearest
  have hparity : (p * Nat.pow 2 52 + n) % 2 = n % 2 := by
    rw [pow_two_52]
    omega
  have hupper := le_twiceUpperEnd (d := d) hn hnormal
  obtain rfl | hpos := Nat.eq_zero_or_pos n
  · obtain rfl : p = 0 := hnormal.resolve_right (by decide)
    refine ⟨?_, Nat.le_trans habove hupper, fun _ => rfl⟩
    rw [show twiceLowerEnd (0 * Nat.pow 2 52 + 0) = 0 from rfl, Nat.zero_mul]
    exact Nat.zero_le _
  · by_cases hleast : n = Nat.pow 2 52 ∧ p ≠ 0
    -- The cell of the least significand of a binade is narrower below than above, but the fraction
    -- is not below the significand at all.
    · have hle := scales.normal.resolve_left hleast.2
      rw [Nat.add_comm, pow_two_add, ← hleast.1, Nat.mul_left_comm] at hle
      have hlower := twiceLowerEnd_lt_mul hd hn hpos hnormal
      refine ⟨by omega, Nat.le_trans habove hupper, fun h => ?_⟩
      rw [hparity]
      exact heven (by omega)
    · have hinside : p = 0 ∨ Nat.pow 2 52 < n := by omega
      have hlower := twiceLowerEnd_eq (d := d) hn hpos hinside
      refine ⟨by omega, Nat.le_trans habove hupper, fun h => ?_⟩
      rw [hparity]
      exact heven (by omega)

namespace RoundsTo

variable {a d r a' d' r' : Nat}

/-- **Rounding keeps the order.** -/
theorem le (h : RoundsTo a d r) (h' : RoundsTo a' d' r') (hd : 0 < d) (hd' : 0 < d')
    (hle : a * d' ≤ a' * d) : r ≤ r' := by
  refine Nat.le_of_not_lt fun hlt => ?_
  have hends : twiceUpperEnd r' ≤ twiceLowerEnd r := twiceLowerEnd_strictMono.monotone hlt
  have hmid : twiceUpperEnd r' * d' * d ≤ twiceLowerEnd r * d * d' := by
    rw [Nat.mul_right_comm]
    exact Nat.mul_le_mul_right _ (Nat.mul_le_mul_right _ hends)
  have hlower := Nat.mul_le_mul_right d' h.lower
  have hupper := Nat.mul_le_mul_right d h'.upper
  rw [Nat.mul_assoc 2] at hlower hupper
  -- So both fractions lie on one midpoint, and the ranks on its two sides would both be even.
  have hr : twiceLowerEnd r * d = 2 * a := by
    refine Nat.eq_of_mul_eq_mul_right hd' ?_
    rw [Nat.mul_assoc 2]
    omega
  have hr' : 2 * a' = twiceUpperEnd r' * d' := by
    refine Nat.eq_of_mul_eq_mul_right hd ?_
    rw [Nat.mul_assoc 2]
    omega
  have hmeet : twiceUpperEnd r' = twiceLowerEnd r := by
    refine Nat.eq_of_mul_eq_mul_right hd (Nat.eq_of_mul_eq_mul_right hd' ?_)
    rw [Nat.mul_right_comm]
    omega
  have hnext : r' + 1 = r := twiceLowerEnd_strictMono.injective hmeet
  have heven := h.even (.inl hr)
  have heven' := h'.even (.inr hr')
  omega

/-- A fraction is rounded to an even rank or a larger one from the midpoint before it on. -/
theorem le_iff (h : RoundsTo a d r) (hd : 0 < d) {s : Nat} (even : s % 2 = 0) :
    s ≤ r ↔ twiceLowerEnd s * d ≤ 2 * a := by
  constructor
  · intro hle
    exact Nat.le_trans (Nat.mul_le_mul_right d (twiceLowerEnd_strictMono.monotone hle)) h.lower
  · intro hle
    refine Nat.le_of_not_lt fun hlt => ?_
    have hends : twiceUpperEnd r * d ≤ twiceLowerEnd s * d :=
      Nat.mul_le_mul_right d (twiceLowerEnd_strictMono.monotone hlt)
    have hupper := h.upper
    have heven := h.even (.inr (by omega))
    have hnext : r + 1 = s := twiceLowerEnd_strictMono.injective (Nat.eq_of_mul_eq_mul_right hd (by
      rw [← twiceUpperEnd_eq]
      omega))
    omega

end RoundsTo

theorem nearestRank_mono {a a' : Nat} (h : a ≤ a') : nearestRank a 1 ≤ nearestRank a' 1 :=
  (roundsTo_nearestRank a Nat.one_pos).le (roundsTo_nearestRank a' Nat.one_pos) Nat.one_pos
    Nat.one_pos (Nat.mul_le_mul_right 1 h)

/-! ## Overflow -/

/-- The least that is too large for the format: it lies halfway between the largest number and the
next power of two. -/
def leastTooLarge : Nat := Nat.pow 2 1024 - Nat.pow 2 970

theorem twiceLowerEnd_ranks : twiceLowerEnd ranks = 2 * (leastTooLarge * unit) := by
  decide +kernel

/-- **Where the format ends.** -/
theorem ranks_le_nearestRank_iff (a : Nat) {d : Nat} (hd : 0 < d) :
    ranks ≤ nearestRank a d ↔ leastTooLarge * unit * d ≤ a := by
  rw [(roundsTo_nearestRank a hd).le_iff hd (by decide), twiceLowerEnd_ranks, Nat.mul_assoc 2,
    Nat.mul_le_mul_left_iff (by decide)]

end Calculator.Binary64
