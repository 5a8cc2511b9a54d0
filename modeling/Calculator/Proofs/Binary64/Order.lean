/-
The order of the numbers, and how integers keep it when they are made numbers.

Integers are rounded in order as long as the format has a number for them
(`signedUnits_mono`). An integer of either sign that is too large becomes plus
infinity; so it is the large negative ones, and no others, that are put out of
order (`le_ofInt_iff`).
-/
import Calculator.Proofs.Binary64.Rounding

namespace Calculator.Binary64

/-- A number is not greater than another one. Nan has no place in this order, and the two zeros have
the same. -/
def le : Binary64 → Binary64 → Bool
  | nan, _ => false
  | _, nan => false
  | infinity negative, y => negative || y == infinity false
  | finite _ _, infinity negative => !negative
  | finite s a, finite t b => decide (signedUnits s a ≤ signedUnits t b)

/-! ## Integers as numbers -/

/-- The rank that an integer is rounded to, be it in the format or not. -/
def rankOfInt (n : Int) : Nat := nearestRank (n.natAbs * unit) 1

theorem rankOfInt_mono {m n : Int} (h : m.natAbs ≤ n.natAbs) : rankOfInt m ≤ rankOfInt n :=
  nearestRank_mono (Nat.mul_le_mul_right unit h)

theorem ranks_le_rankOfInt_iff (n : Int) : ranks ≤ rankOfInt n ↔ leastTooLarge ≤ n.natAbs := by
  rw [rankOfInt, ranks_le_nearestRank_iff _ Nat.one_pos, Nat.mul_one,
    Nat.mul_le_mul_right_iff unit_pos]

theorem ofInt?_eq (n : Int) : ofInt? n =
    if h : rankOfInt n < ranks then some (finite (n < 0) ⟨rankOfInt n, h⟩) else none := by
  unfold ofInt? round? rankOfInt
  rfl

theorem ofInt_of_lt {n : Int} (h : n.natAbs < leastTooLarge) :
    ∃ hlt, ofInt n = finite (n < 0) ⟨rankOfInt n, hlt⟩ := by
  have hlt : rankOfInt n < ranks := by
    rw [← Nat.not_le, ranks_le_rankOfInt_iff]
    exact Nat.not_le.2 h
  exact ⟨hlt, by rw [ofInt, ofInt?_eq, dif_pos hlt, Option.getD_some]⟩

theorem ofInt_of_le {n : Int} (h : leastTooLarge ≤ n.natAbs) : ofInt n = infinity false := by
  have hge : ¬rankOfInt n < ranks := Nat.not_lt.2 ((ranks_le_rankOfInt_iff n).2 h)
  rw [ofInt, ofInt?_eq, dif_neg hge, Option.getD_none]

/-! ## Order -/

theorem signedUnits_mono {m n : Int} (h : m ≤ n) :
    signedUnits (m < 0) (rankOfInt m) ≤ signedUnits (n < 0) (rankOfInt n) := by
  unfold signedUnits
  by_cases hn : n < 0
  · have hunits : units (rankOfInt n) ≤ units (rankOfInt m) :=
      units_strictMono.monotone (rankOfInt_mono (by omega))
    rw [decide_eq_true hn, decide_eq_true (Int.lt_of_le_of_lt h hn), if_pos rfl, if_pos rfl]
    omega
  · rw [decide_eq_false hn, if_neg Bool.false_ne_true]
    by_cases hm : m < 0
    · rw [decide_eq_true hm, if_pos rfl]
      omega
    · have hunits : units (rankOfInt m) ≤ units (rankOfInt n) :=
        units_strictMono.monotone (rankOfInt_mono (by omega))
      rw [decide_eq_false hm, if_neg Bool.false_ne_true]
      omega

/-- Integers are in order as numbers, unless a negative one is too large and the other is not. -/
theorem le_ofInt_iff {m n : Int} (h : m ≤ n) :
    (ofInt m).le (ofInt n) = true ↔ ¬(m ≤ -leastTooLarge ∧ n.natAbs < leastTooLarge) := by
  obtain hn | hn := Nat.lt_or_ge n.natAbs leastTooLarge
  · obtain ⟨_, hvalue⟩ := ofInt_of_lt hn
    obtain hm | hm := Nat.lt_or_ge m.natAbs leastTooLarge
    · obtain ⟨_, hvalue'⟩ := ofInt_of_lt hm
      rw [hvalue, hvalue', le, decide_eq_true (signedUnits_mono h)]
      simp only [true_iff]
      omega
    · rw [hvalue, ofInt_of_le hm]
      simp only [le, Bool.false_or, beq_iff_eq, reduceCtorEq, false_iff, Decidable.not_not]
      omega
  · rw [ofInt_of_le hn]
    have hle : (ofInt m).le (infinity false) = true := by
      obtain hm | hm := Nat.lt_or_ge m.natAbs leastTooLarge
      · obtain ⟨_, hvalue⟩ := ofInt_of_lt hm
        rw [hvalue]
        rfl
      · rw [ofInt_of_le hm]
        rfl
    simp only [hle, true_iff]
    omega

end Calculator.Binary64
