/-
The text of an expression is interpreted as the expression is evaluated, also if
it has negative literals (`interpret_text`).

The text is parsed, but a negative literal comes back as a minus sign before its
magnitude (`Expr.asRead`). The two have one value because an integer is rounded
alike on both sides of zero, as long as it is in the range of the format: what is
too large is plus infinity on either side, and its negation is not.
-/
import Calculator.Interpretation
import Calculator.Proofs.Binary64.Integer
import Calculator.Proofs.Expr.RoundTrip

namespace Calculator

open Calculator.Parser

namespace Expr

/-- Every negative literal is in the range of the format. -/
def IsInRange (e : Expr) : Prop :=
  e.AllLiterals fun value => value < 0 → (Binary64.ofInt value).isFinite = true

instance : DecidablePred IsInRange := fun e => inferInstanceAs (Decidable (e.AllLiterals _))

theorem value_literalAsRead {n : Int} (h : n < 0 → (Binary64.ofInt n).isFinite = true) :
    (literalAsRead n).value = Binary64.ofInt n := by
  by_cases hn : n < 0
  · rw [literalAsRead, if_pos hn, value, value, Sign.apply]
    exact Binary64.neg_ofInt_natAbs hn (h hn)
  · have hnat : (n.natAbs : Int) = n := Int.natAbs_of_nonneg (Int.not_lt.1 hn)
    rw [literalAsRead, if_neg hn, hnat, value]

theorem value_asRead {e : Expr} (inRange : e.IsInRange) : e.asRead.value = e.value := by
  induction e with
  | number n => exact value_literalAsRead inRange
  | unary sign operand ih => rw [asRead, value, value, ih inRange]
  | binary left op right ih₁ ih₂ =>
    rw [asRead, value, value, ih₁ inRange.1, ih₂ inRange.2]

end Expr

/-- **Printing keeps the value, also of negative literals.** If the literals of an expression are
written out, the negative ones are in the range of the format, and its text does not nest too deep,
then the text is interpreted in both modes, and with the value of the expression; what is parsed
has a minus sign before the magnitude in place of each negative literal. This holds under any limit
on nesting, and without one. -/
theorem interpret_text {e : Expr} (short : e.IsShort) (inRange : e.IsInRange) {limit : Option Nat}
    (shallow : exceeds e.textNesting limit = false) (strict : Bool) :
    parseWithin limit strict e.text.toList = .ok e.asRead ∧
      ∃ r, interpretWithin limit strict e.text.toList = .ok r ∧ r.value = e.evaluate.value := by
  have hparse : parseWithin limit strict e.text.toList = .ok e.asRead :=
    parse_of_renders_words shallow (Expr.renders_words short)
  refine ⟨hparse, e.asRead.evaluate, ?_, ?_⟩
  · rw [interpretWithin, hparse]
    rfl
  · rw [Expr.evaluate_eq, Expr.evaluate_eq]
    exact Expr.value_asRead inRange

/-- `((-5 ^ 2) - -2)` of the literals -5 and -2. -/
theorem interpret_text_signs : ∃ e : Expr, ¬e.IsNatural ∧ e.asRead ≠ e ∧
    parse true e.text.toList = .ok e.asRead ∧
      ∃ r, interpret true e.text.toList = .ok r ∧ r.value = e.evaluate.value := by
  let e : Expr :=
    .binary (.binary (.number (-5)) .power (.number 2)) (.additive .minus) (.number (-2))
  have shallow : exceeds e.textNesting (some depthLimit) = false := by decide
  exact ⟨e, by decide, by decide,
    interpret_text (by decide) (by decide +kernel) shallow true⟩

end Calculator
