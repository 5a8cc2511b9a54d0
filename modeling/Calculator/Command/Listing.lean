/-
The tables that the command line prints: the steps of an evaluation, and the
tokens of a text. A character that the output cannot carry is shown as a
question mark.
-/
import Calculator.Expr.Evaluation
import Calculator.Table
import Calculator.Text.Charset

namespace Calculator.Command

/-- A text as a cell that the output can carry. -/
def fitted (set : Text.Charset) (text : String) : String := String.ofList (set.fit text.toList)

/-- The rows of the steps, numbered from one. -/
def stepRows (set : Text.Charset) (steps : List String) : List (List String) :=
  steps.mapIdx fun i step => ["step " ++ (i + 1).repr, fitted set step]

/-- An evaluation: the text, each step, and the result. -/
def evaluationTable (set : Text.Charset) (text : String) (e : Evaluation) : Table where
  title := "Evaluation"
  columns := [⟨"Key", ⟨false, false⟩⟩, ⟨"Value", ⟨false, true⟩⟩]
  rows :=
    ["expr", fitted set text] :: (stepRows set e.steps ++ [["result", fitted set e.value.display]])
  headed := false
  spaced := false

/-- Tokens, numbered from zero. -/
def tokenTable (set : Text.Charset) (tokens : List Token) : Table where
  title := "Tokens [" ++ tokens.length.repr ++ "]"
  columns := [⟨"#", ⟨true, false⟩⟩, ⟨"Kind", ⟨false, false⟩⟩, ⟨"Text", ⟨false, false⟩⟩]
  rows := tokens.mapIdx fun i token => [i.repr, token.kind.name, fitted set token.text]
  headed := true
  spaced := true

end Calculator.Command
