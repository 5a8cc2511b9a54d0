/-
From the text of an expression to its value.

`interpret` parses and evaluates. `trace` does the same and keeps the log: a
line for each token that the parser fetched, and then, if there is a tree, a
line for each event of its evaluation.
-/
import Calculator.Expr.Evaluation
import Calculator.Expr.Parser
import Calculator.Log

namespace Calculator

/-- The value of a text with its steps under a limit on nesting, or what is wrong with the text. -/
def interpretWithin (limit : Option Nat) (strict : Bool) (text : List Char) :
    Except ExpressionError Evaluation :=
  (parseWithin limit strict text).map Expr.evaluate

/-- The value of a text with its steps, or what is wrong with the text. -/
def interpret (strict : Bool) (text : List Char) : Except ExpressionError Evaluation :=
  interpretWithin (some Parser.depthLimit) strict text

theorem interpret_eq_map (strict : Bool) (text : List Char) :
    interpret strict text = (parse strict text).map Expr.evaluate := rfl

/-! ## The log -/

/-- The line of a token that was fetched. -/
def Reading.logLine (r : Reading) : LogLine :=
  ⟨"arytmos.tokenizer",
    "token " ++ r.token.kind.name ++ " at " ++ r.after.repr ++ ": " ++ r.token.text⟩

/-- The line of an event of an evaluation. -/
def Event.logLine (e : Event) : LogLine := ⟨"arytmos.evaluator", e.message⟩

/-- A result with the log of how it came about. -/
structure Traced (α : Type) where
  log : List LogLine
  result : α
  deriving Repr

/-- Tokenizes, and keeps the log. -/
def traceTokens (text : List Char) : Traced (Except LexicalError (List Token)) :=
  ⟨(scan text).readings.map Reading.logLine, tokenize text⟩

/-- Parses, and keeps the log. -/
def traceParse (strict : Bool) (text : List Char) : Traced (Except ExpressionError Expr) :=
  match Parser.ofText strict text with
  | .error e => ⟨[], .error (.lexical e)⟩
  | .ok p =>
    let (outcome, q) := p.tree
    ⟨q.fetched.reverse.map Reading.logLine, outcome⟩

/-- Interprets, and keeps the log. -/
def trace (strict : Bool) (text : List Char) : Traced (Except ExpressionError Evaluation) :=
  let parsed := traceParse strict text
  match parsed.result with
  | .error e => ⟨parsed.log, .error e⟩
  | .ok e =>
    let evaluation := e.evaluate
    ⟨parsed.log ++ evaluation.events.map Event.logLine, .ok evaluation⟩

end Calculator
