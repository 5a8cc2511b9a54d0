/-
The grammar, as derivations.

`Derives closes l tokens e` says that the tokens are an expression of level `l`
whose tree is `e`. Each level joins operands of the next tighter one, and folds
them to the left; a sign before an operand binds tighter than any operator. The
parameter says which parentheses close a group: the strict grammar takes the
closing one only, the loose grammar either.
-/
import Calculator.Expr.Basic

namespace Calculator

/-- A group is closed by the closing parenthesis. -/
def ClosesStrictly (side : Paren) : Prop := side = .closing

/-- A group is closed by either parenthesis. -/
def ClosesLoosely (_ : Paren) : Prop := True

/-- The tokens are an expression of the level, and this is its tree. -/
inductive Derives (closes : Paren → Prop) : Level → List Token → Expr → Prop where
  | number (n : Nat) : Derives closes .operand [.integer n] (.number n)
  | sign {tokens : List Token} {e : Expr} (sign : Sign)
      (operand : Derives closes .operand tokens e) :
      Derives closes .operand (.additive sign :: tokens) (.unary sign e)
  | group {tokens : List Token} {e : Expr} {side : Paren} (inner : Derives closes .sum tokens e)
      (closed : closes side) :
      Derives closes .operand (.paren .opening :: (tokens ++ [.paren side])) e
  | single {l : Level} {tokens : List Token} {e : Expr} (joins : l ≠ .operand)
      (operand : Derives closes l.tighter tokens e) : Derives closes l tokens e
  | join {l : Level} {before after : List Token} {left right : Expr} {op : Operator}
      (fits : op.level = l) (operands : Derives closes l before left)
      (operand : Derives closes l.tighter after right) :
      Derives closes l (before ++ op.token :: after) (.binary left op right)

/-- The tokens are a sentence of the strict grammar with this tree. -/
def DerivesStrictly (tokens : List Token) (e : Expr) : Prop := Derives ClosesStrictly .sum tokens e

/-- The tokens are a sentence of the loose grammar with this tree. -/
def DerivesLoosely (tokens : List Token) (e : Expr) : Prop := Derives ClosesLoosely .sum tokens e

namespace Derives

/-- No expression is empty. -/
theorem ne_nil {closes : Paren → Prop} {l : Level} {tokens : List Token} {e : Expr}
    (d : Derives closes l tokens e) : tokens ≠ [] := by
  induction d with
  | single _ _ ih => exact ih
  | _ => simp

end Derives

end Calculator
