/-
The values of literals, compared with the literals.

A literal may be any integer, for trees are also read from documents. Literals
are in order as values, and a negative one is not positive, down to the least
integer that the format has a number for; below it every literal has the value
plus infinity (`literals_ordered_iff`).
-/
import Calculator.Expr.Evaluation
import Calculator.Proofs.Binary64.Order

namespace Calculator.Expr

open Binary64 (leastTooLarge zero infinity)

theorem value_number (n : Int) : (number n).evaluate.value = Binary64.ofInt n := by
  rw [evaluate_eq, value]

/-- **Literals are in order as values, but for those that are too low.** Of two literals the smaller
one has a value that is not greater, unless it is too low for the format and the other one is in its
range. A negative literal has a value that is not above zero, unless it is too low. Those that are
too low have the value plus infinity. -/
theorem literals_ordered_iff (m n : Int) :
    (m ≤ n → ((number m).evaluate.value.le (number n).evaluate.value = true ↔
      ¬(m ≤ -leastTooLarge ∧ n.natAbs < leastTooLarge))) ∧
    (m < 0 → ((number m).evaluate.value.le (zero false) = true ↔ ¬m ≤ -leastTooLarge)) ∧
    (m ≤ -leastTooLarge → (number m).evaluate.value = infinity false) := by
  simp only [value_number]
  refine ⟨Binary64.le_ofInt_iff, fun hm => ?_, fun hm => Binary64.ofInt_of_le (by omega)⟩
  have hzero : zero false = Binary64.ofInt 0 := by decide +kernel
  have hpos : (0 : Int).natAbs < leastTooLarge := by decide +kernel
  rw [hzero, Binary64.le_ofInt_iff (Int.le_of_lt hm)]
  simp only [hpos, and_true]

/-- The literal `-7` is in order; the one with 309 zeros behind a minus and a one is too low. -/
theorem literals_ordered_iff_lowest :
    (number (-7)).evaluate.value.le (number 3).evaluate.value = true ∧
      (number (-7)).evaluate.value.le (zero false) = true ∧
      (number (-(Nat.pow 10 309 : Nat))).evaluate.value = infinity false := by
  obtain ⟨hordered, hnegative, -⟩ := literals_ordered_iff (-7) 3
  obtain ⟨-, -, hlow⟩ := literals_ordered_iff (-(Nat.pow 10 309 : Nat)) 0
  exact ⟨(hordered (by decide)).2 (by decide +kernel),
    (hnegative (by decide)).2 (by decide +kernel), hlow (by decide +kernel)⟩

/-- The literal with 309 zeros behind a minus and a one has a positive value, which is greater than
that of zero. -/
theorem literals_disordered :
    (-(Nat.pow 10 309 : Nat) : Int) < 0 ∧
      (number (-(Nat.pow 10 309 : Nat))).evaluate.value = infinity false ∧
      (number (-(Nat.pow 10 309 : Nat))).evaluate.value.le (number 0).evaluate.value = false := by
  have hvalue : (number (-(Nat.pow 10 309 : Nat))).evaluate.value = infinity false := by
    rw [value_number, Binary64.ofInt_of_le (by decide +kernel)]
  refine ⟨by decide +kernel, hvalue, ?_⟩
  rw [hvalue, value_number]
  decide +kernel

end Calculator.Expr
