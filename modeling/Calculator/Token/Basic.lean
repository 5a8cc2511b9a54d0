/-
The words of an expression: integers, signs, scalings, the power sign,
parentheses, and the end of the text.

Each token has a kind, which is what grammar rules and messages speak of, and a
text, which is what listings show.
-/
import Calculator.Numeral

namespace Calculator

/-- Plus or minus, between terms or before an operand. -/
inductive Sign where
  | plus
  | minus
  deriving DecidableEq, Repr

/-- Times or divided by, between factors. -/
inductive Scaling where
  | times
  | divide
  deriving DecidableEq, Repr

/-- The two parentheses. -/
inductive Paren where
  | opening
  | closing
  deriving DecidableEq, Repr

/-- A word of an expression. -/
inductive Token where
  | integer (value : Nat)
  | additive (sign : Sign)
  | multiplicative (scaling : Scaling)
  | power
  | paren (side : Paren)
  | endOfText
  deriving DecidableEq, Repr

/-- The kinds of tokens. -/
inductive TokenKind where
  | integer
  | additive
  | multiplicative
  | power
  | paren
  | endOfText
  deriving DecidableEq, Repr

namespace Sign

/-- The character of a sign. -/
def symbol : Sign → Char
  | plus => '+'
  | minus => '-'

end Sign

namespace Scaling

/-- The character of a scaling. -/
def symbol : Scaling → Char
  | times => '*'
  | divide => '/'

end Scaling

namespace Paren

/-- The character of a parenthesis. -/
def symbol : Paren → Char
  | opening => '('
  | closing => ')'

end Paren

namespace TokenKind

/-- The name that messages and listings use. -/
def name : TokenKind → String
  | integer => "INTEGER"
  | additive => "ADDITIVE_OP"
  | multiplicative => "MULTIPLICATIVE_OP"
  | power => "POWER"
  | paren => "PAREN"
  | endOfText => "EOF"

/-- All kinds. -/
def all : List TokenKind := [integer, additive, multiplicative, power, paren, endOfText]

/-- The kind of that name. -/
def ofName? (name : String) : Option TokenKind := all.find? (·.name = name)

theorem ofName?_name (kind : TokenKind) : ofName? kind.name = some kind := by
  cases kind <;> decide

end TokenKind

namespace Token

/-- The kind of a token. -/
def kind : Token → TokenKind
  | integer _ => .integer
  | additive _ => .additive
  | multiplicative _ => .multiplicative
  | power => .power
  | paren _ => .paren
  | endOfText => .endOfText

/-- The character that tells tokens of one kind apart. -/
def symbol? : Token → Option Char
  | additive sign => some sign.symbol
  | multiplicative scaling => some scaling.symbol
  | paren side => some side.symbol
  | _ => none

/-- The token as listings show it. -/
def text : Token → String
  | integer value => Numeral.text value
  | additive sign => sign.symbol.toString
  | multiplicative scaling => scaling.symbol.toString
  | power => "^"
  | paren side => side.symbol.toString
  | endOfText => "<eof>"

/-- The token that a single character is. -/
def ofSymbol? (c : Char) : Option Token :=
  if c = '+' then some (additive .plus)
  else if c = '-' then some (additive .minus)
  else if c = '*' then some (multiplicative .times)
  else if c = '/' then some (multiplicative .divide)
  else if c = '^' then some power
  else if c = '(' then some (paren .opening)
  else if c = ')' then some (paren .closing)
  else none

theorem ofSymbol?_ne_endOfText {c : Char} {t : Token} (h : ofSymbol? c = some t) :
    t ≠ endOfText := by
  unfold ofSymbol? at h
  repeat' split at h
  all_goals first | (obtain rfl := Option.some.inj h; decide) | cases h

end Token

end Calculator
