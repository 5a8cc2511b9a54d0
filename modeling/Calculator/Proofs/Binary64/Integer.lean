/-
Integers among the numbers. A number that is an integer is what that integer is
rounded to (`ofInt_of_toInt?`), for a magnitude of the format is its own rounding
(`nearestRank_units`); only zero with a minus sign comes back as zero without
one. Rounding does the same on both sides of zero (`neg_ofInt_natAbs`), and an
integer in the format has 309 digits at most (`length_repr_le_of_toInt?`).
-/
import Calculator.Binary64.Arithmetic
import Calculator.Proofs.Numeral

namespace Calculator.Binary64

/-! ## Ranks and their units -/

theorem pow_two_52 : Nat.pow 2 52 = 4503599627370496 := rfl

theorem pow_two_53 : Nat.pow 2 53 = 9007199254740992 := rfl

theorem unit_eq : unit = Nat.pow 2 1074 := by
  unfold unit
  rfl

theorem pow_two_add (m n : Nat) : Nat.pow 2 (m + n) = Nat.pow 2 m * Nat.pow 2 n := Nat.pow_add ..

theorem pow_two_le {m n : Nat} (h : m ≤ n) : Nat.pow 2 m ≤ Nat.pow 2 n :=
  Nat.pow_le_pow_right (by decide) h

theorem pow_two_pos (n : Nat) : 0 < Nat.pow 2 n := Nat.pow_pos (by decide)

theorem rank_eq (rank : Nat) : rank = exponent rank * Nat.pow 2 52 + significand rank := by
  simp only [significand, exponent, pow_two_52]
  omega

theorem significand_lt (rank : Nat) : significand rank < Nat.pow 2 53 := by
  simp only [significand, exponent, pow_two_52, pow_two_53]
  omega

/-- The leading bit of a significand is set, unless its units are the smallest. -/
theorem exponent_eq_zero_or (rank : Nat) :
    exponent rank = 0 ∨ Nat.pow 2 52 ≤ significand rank := by
  simp only [significand, exponent, pow_two_52]
  omega

theorem exponent_le {rank : Nat} (h : rank < ranks) : exponent rank ≤ 2045 := by
  simp only [ranks, pow_two_52] at h
  simp only [exponent, pow_two_52]
  omega

theorem units_lt (rank : Nat) : units rank < Nat.pow 2 (53 + exponent rank) := by
  rw [pow_two_add]
  exact Nat.mul_lt_mul_of_pos_right (significand_lt rank) (pow_two_pos _)

theorem lt_pow_of_units_eq {rank a u m n : Nat} (hu : u = Nat.pow 2 n)
    (h : units rank = a * u) (hexp : 53 + exponent rank ≤ m + n) : a < Nat.pow 2 m := by
  have hlt := Nat.lt_of_lt_of_le (units_lt rank) (pow_two_le hexp)
  rw [h, pow_two_add, ← hu] at hlt
  exact Nat.lt_of_mul_lt_mul_right hlt

theorem le_units {rank : Nat} (h : exponent rank ≠ 0) :
    Nat.pow 2 (52 + exponent rank) ≤ units rank := by
  rw [pow_two_add]
  exact Nat.mul_le_mul_right _ ((exponent_eq_zero_or rank).resolve_left h)

theorem units_eq_zero_iff {rank : Nat} : units rank = 0 ↔ rank = 0 := by
  have hrank := rank_eq rank
  have hor := exponent_eq_zero_or rank
  simp only [pow_two_52] at hrank hor
  have hpos := pow_two_pos (exponent rank)
  simp only [units, Nat.mul_eq_zero]
  omega

/-! ## Rounding what needs none -/

theorem scale_units (rank : Nat) : scale (units rank) 1 = exponent rank := by
  have hlt := units_lt rank
  by_cases h : exponent rank = 0
  · rw [h] at hlt
    have hlow : (units rank).log2 - 53 = 0 := by
      by_cases hzero : units rank = 0
      · rw [hzero]
        rfl
      · have := (Nat.log2_lt hzero).2 hlt
        omega
    have hlog : Nat.log2 1 = 0 := rfl
    unfold scale
    dsimp only
    rw [hlog, Nat.zero_add, hlow, if_pos (by rwa [Nat.one_mul, Nat.zero_add]), h]
  · have hle := le_units h
    have hne : units rank ≠ 0 := Nat.ne_of_gt (Nat.lt_of_lt_of_le (pow_two_pos _) hle)
    have hlog : (units rank).log2 = 52 + exponent rank :=
      (Nat.log2_eq_iff hne).2 ⟨hle, by rw [Nat.add_right_comm]; exact hlt⟩
    have hone : Nat.log2 1 = 0 := rfl
    have hlow : 52 + exponent rank - 53 + 53 = 52 + exponent rank := by omega
    unfold scale
    dsimp only
    rw [hlog, hone, Nat.zero_add, hlow, if_neg (by rw [Nat.one_mul]; omega)]
    omega

theorem nearest_mul (n : Nat) {d : Nat} (hd : 0 < d) : nearest (n * d) d = n := by
  unfold nearest
  simp only [Nat.mul_div_cancel _ hd, Nat.mul_mod_left, Nat.mul_zero, hd, if_true]

/-- **A magnitude of the format is its own rounding.** -/
theorem nearestRank_units (rank : Nat) : nearestRank (units rank) 1 = rank := by
  unfold nearestRank
  dsimp only
  rw [scale_units, Nat.one_mul, units, nearest_mul _ (pow_two_pos _)]
  exact (rank_eq rank).symm

theorem round?_units (negative : Bool) (rank : Fin ranks) :
    round? negative (units rank) 1 = some (finite negative rank) := by
  unfold round?
  simp only [nearestRank_units, rank.isLt, dite_true]

/-! ## Integers -/

theorem natAbs_signed (negative : Bool) (a : Nat) :
    (if negative then -(a : Int) else a).natAbs = a := by
  cases negative
  · rfl
  · exact Int.natAbs_neg _

theorem exists_units_of_toInt? {x : Binary64} {n : Int} (h : x.toInt? = some n) :
    ∃ negative rank, x = finite negative rank ∧ units rank = n.natAbs * unit ∧
      n = if negative then -(n.natAbs : Int) else n.natAbs := by
  cases x with
  | nan => cases h
  | infinity negative => cases h
  | finite negative rank =>
    refine ⟨negative, rank, rfl, ?_⟩
    rw [toInt?] at h
    by_cases hmod : units rank % unit = 0
    · rw [if_pos hmod] at h
      have hunits : units rank / unit * unit = units rank :=
        Nat.div_mul_cancel (Nat.dvd_of_mod_eq_zero hmod)
      have hn := (Option.some.inj h).symm
      have habs : n.natAbs = units rank / unit := by rw [hn, natAbs_signed]
      rw [habs, hunits]
      exact ⟨rfl, hn⟩
    · rw [if_neg hmod] at h
      cases h

theorem isFinite_of_toInt? {x : Binary64} {n : Int} (h : x.toInt? = some n) :
    x.isFinite = true := by
  obtain ⟨negative, rank, rfl, -⟩ := exists_units_of_toInt? h
  rfl

/-- **A number that is an integer is what the integer is rounded to.** Zero with a minus sign is
the one that the integer does not tell. -/
theorem ofInt?_of_toInt? {x : Binary64} {n : Int} (h : x.toInt? = some n) (hx : x ≠ zero true) :
    ofInt? n = some x := by
  obtain ⟨negative, rank, rfl, hunits, hn⟩ := exists_units_of_toInt? h
  have hsign : decide (n < 0) = negative := by
    cases negative with
    | false =>
      rw [hn]
      exact decide_eq_false (by simp)
    | true =>
      have hne : n.natAbs ≠ 0 := by
        intro hzero
        rw [hzero, Nat.zero_mul, units_eq_zero_iff] at hunits
        exact hx (congrArg (finite true) (Fin.ext hunits))
      rw [if_pos rfl] at hn
      exact decide_eq_true (by omega)
  rw [ofInt?, ← hunits, hsign, round?_units]

theorem ofInt_of_toInt? {x : Binary64} {n : Int} (h : x.toInt? = some n) (hx : x ≠ zero true) :
    ofInt n = x := by
  rw [ofInt, ofInt?_of_toInt? h hx, Option.getD_some]

theorem length_repr_le_of_toInt? {x : Binary64} {n : Int} (h : x.toInt? = some n) :
    n.natAbs.repr.length ≤ 309 := by
  obtain ⟨negative, rank, -, hunits, -⟩ := exists_units_of_toInt? h
  have hexp : 53 + exponent rank ≤ 1024 + 1074 := by
    have := exponent_le rank.isLt
    omega
  have hlt := lt_pow_of_units_eq unit_eq hunits hexp
  exact Numeral.length_repr_le_of_lt_pow (by decide) (Nat.lt_trans hlt (by decide +kernel))

/-! ## Both sides of zero -/

theorem round?_not (negative : Bool) (a d : Nat) :
    round? (!negative) a d = (round? negative a d).map neg := by
  unfold round?
  split <;> rfl

theorem ofInt?_neg {n : Int} (h : n ≠ 0) : ofInt? (-n) = (ofInt? n).map neg := by
  have hsign : decide (-n < 0) = !decide (n < 0) := by
    by_cases hneg : n < 0
    · rw [decide_eq_true hneg]
      exact decide_eq_false (by omega)
    · rw [decide_eq_false hneg]
      exact decide_eq_true (by omega)
  rw [ofInt?, ofInt?, Int.natAbs_neg, hsign, round?_not]

/-- A negative integer in the range of the format is its magnitude with the other sign. -/
theorem neg_ofInt_natAbs {n : Int} (hneg : n < 0) (hfinite : (ofInt n).isFinite = true) :
    (ofInt n.natAbs).neg = ofInt n := by
  have hn : n = -(n.natAbs : Int) := by omega
  have hround : ofInt? n = (ofInt? n.natAbs).map neg := by
    conv => lhs; rw [hn]
    exact ofInt?_neg (by omega)
  unfold ofInt at hfinite ⊢
  rw [hround] at hfinite ⊢
  cases hmagnitude : ofInt? n.natAbs with
  | none =>
    rw [hmagnitude] at hfinite
    cases hfinite
  | some x => rfl

end Calculator.Binary64
