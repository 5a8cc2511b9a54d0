/-
Expressions: integers, signed operands and operations, and the levels at which
operators bind.
-/
import Calculator.Token.Basic

namespace Calculator

/-- An operator between two operands. -/
inductive Operator where
  | additive (sign : Sign)
  | multiplicative (scaling : Scaling)
  | power
  deriving DecidableEq, Repr

/-- An expression. -/
inductive Expr where
  | number (value : Int)
  | unary (sign : Sign) (operand : Expr)
  | binary (left : Expr) (op : Operator) (right : Expr)
  deriving DecidableEq, Repr

/-- What may stand where: an operand alone, or operands joined by powers, by scalings, or
by signs. -/
inductive Level where
  | operand
  | power
  | product
  | sum
  deriving DecidableEq, Repr

namespace Operator

/-- The character of an operator. -/
def symbol : Operator → Char
  | additive sign => sign.symbol
  | multiplicative scaling => scaling.symbol
  | power => '^'

/-- The token of an operator. -/
def token : Operator → Token
  | additive sign => .additive sign
  | multiplicative scaling => .multiplicative scaling
  | power => .power

/-- The level whose operands the operator joins. -/
def level : Operator → Level
  | additive _ => .sum
  | multiplicative _ => .product
  | power => .power

end Operator

/-- The operator that a token is. -/
def Token.operator? : Token → Option Operator
  | .additive sign => some (.additive sign)
  | .multiplicative scaling => some (.multiplicative scaling)
  | .power => some .power
  | _ => none

theorem Token.operator?_eq_some_iff {t : Token} {op : Operator} :
    t.operator? = some op ↔ t = op.token := by
  cases t <;> cases op <;> simp [Token.operator?, Operator.token]

namespace Level

/-- The place of a level, the tightest first. -/
def rank : Level → Nat
  | operand => 0
  | power => 1
  | product => 2
  | sum => 3

/-- The level of the operands that a level joins. -/
def tighter : Level → Level
  | sum => product
  | product => power
  | power => operand
  | operand => operand

theorem rank_tighter_lt {l : Level} (h : l ≠ operand) : l.tighter.rank < l.rank := by
  cases l <;> first | exact absurd rfl h | decide

/-- The token as an operator of the level. -/
def operator? (l : Level) (t : Token) : Option Operator := t.operator?.filter (·.level = l)

theorem operator?_eq_some_iff {l : Level} {t : Token} {op : Operator} :
    l.operator? t = some op ↔ t = op.token ∧ op.level = l := by
  simp [operator?, Option.filter_eq_some_iff, Token.operator?_eq_some_iff]

theorem ne_endOfText_of_operator? {l : Level} {t : Token} {op : Operator}
    (h : l.operator? t = some op) : t ≠ .endOfText := by
  obtain ⟨rfl, _⟩ := operator?_eq_some_iff.1 h
  cases op <;> simp [Operator.token]

end Level

namespace Expr

/-- How many nodes an expression has. -/
def size : Expr → Nat
  | number _ => 1
  | unary _ operand => operand.size + 1
  | binary left _ right => left.size + right.size + 1

end Expr

end Calculator
