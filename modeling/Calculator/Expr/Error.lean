/-
What can be wrong with the text of an expression: a character that begins no
token, or a token that no grammar rule takes. A grammar error knows what was
expected and what was found there.
-/
import Calculator.Token.Cursor

namespace Calculator

/-- A token that no grammar rule takes. -/
inductive GrammarError where
  /-- a token of one kind where another kind is due -/
  | mismatch (expected found : TokenKind)
  /-- a token that begins no operand -/
  | noOperand (found : TokenKind)
  /-- an opening parenthesis where the closing one is due -/
  | groupReopened
  /-- groups and signs nested deeper than the limit -/
  | tooDeep (found : TokenKind)
  deriving DecidableEq, Repr

namespace GrammarError

/-- What may begin an operand. -/
def operandStart : String :=
  "PAREN('(') | " ++ TokenKind.additive.name ++ " | " ++ TokenKind.integer.name

/-- What was expected. -/
def expected : GrammarError → String
  | mismatch expected _ => expected.name
  | noOperand _ => operandStart
  | groupReopened => "PAREN(')')"
  | tooDeep _ => "nesting within depth limit"

/-- What was found. -/
def found : GrammarError → String
  | mismatch _ found => found.name
  | noOperand found => found.name
  | groupReopened => "PAREN('(')"
  | tooDeep found => found.name

/-- The error in words. -/
def message (e : GrammarError) : String :=
  "expected kind " ++ e.expected ++ " but found kind " ++ e.found

end GrammarError

/-- What is wrong with the text of an expression. -/
inductive ExpressionError where
  | lexical (error : LexicalError)
  | grammatical (error : GrammarError)
  deriving DecidableEq, Repr

namespace ExpressionError

/-- The error in words. -/
def message : ExpressionError → String
  | lexical error => error.message
  | grammatical error => error.message

end ExpressionError

end Calculator
