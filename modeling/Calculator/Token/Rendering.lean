/-
How tokens are written, said without a scanner.

`Lexeme t word` says that `word` spells the token `t`: an integer is spelled by
any run of digits of its value, leading zeros included, and every other token
by its own character. `Renders tokens text` says that `text` is the tokens'
words in order, with any spaces before, between and after them, and at least
one space between two integers.
-/
import Calculator.Token.Basic

namespace Calculator

/-- The word spells the token. -/
inductive Lexeme : Token → List Char → Prop where
  | integer {run : List Char} (nonempty : run ≠ []) (digits : ∀ c ∈ run, c.isDigit = true) :
      Lexeme (.integer (Numeral.value run)) run
  | additive (sign : Sign) : Lexeme (.additive sign) [sign.symbol]
  | multiplicative (scaling : Scaling) : Lexeme (.multiplicative scaling) [scaling.symbol]
  | power : Lexeme .power ['^']
  | paren (side : Paren) : Lexeme (.paren side) [side.symbol]

/-- The text is nothing but spaces. -/
def IsGap (text : List Char) : Prop := ∀ c ∈ text, c = ' '

/-- A token of the kind of integers stands first. -/
def StartsWithInteger (tokens : List Token) : Prop := ∃ n more, tokens = .integer n :: more

/-- The text, which does not begin with a space, is the words of the tokens in order. -/
inductive RendersWords : List Token → List Char → Prop where
  | nil : RendersWords [] []
  | cons {t : Token} {more : List Token} {word gap rest : List Char} (lexeme : Lexeme t word)
      (spaces : IsGap gap) (apart : t.kind = .integer → StartsWithInteger more → gap ≠ [])
      (tail : RendersWords more rest) : RendersWords (t :: more) (word ++ (gap ++ rest))

/-- The text is the words of the tokens in order, after any spaces. -/
def Renders (tokens : List Token) (text : List Char) : Prop :=
  ∃ gap words, text = gap ++ words ∧ IsGap gap ∧ RendersWords tokens words

/-- The character may stand in an expression. -/
def IsLegal (c : Char) : Prop :=
  c = ' ' ∨ c.isDigit = true ∨ c ∈ ['+', '-', '*', '/', '^', '(', ')']

instance : DecidablePred IsLegal := fun _ => inferInstanceAs (Decidable (_ ∨ _ ∨ _))

end Calculator
