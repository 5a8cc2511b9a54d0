/-
Running the command line, from what it is given to what it writes.

`run` checks the arguments, the settings and the level of the log, in this
order, and then does what the subcommand says. A run that ends by itself has an
`Outcome`, with what it wrote and its exit status; one that breaks off has a
`Failure`.

`eval`, `tokens` and `ast` answer one text, given by an option or else read from
the input. `repl` answers the input line by line.
-/
import Calculator.Command.Arguments
import Calculator.Command.Listing
import Calculator.Expr.Document
import Calculator.Expr.Printer
import Calculator.Interpretation
import Calculator.Json.Writer
import Calculator.Settings

namespace Calculator.Command

/-- What a run is given. -/
structure Invocation where
  arguments : List String
  environment : List (String × String)
  input : String
  /-- what the output can carry -/
  charset : Text.Charset
  deriving DecidableEq, Repr

/-- What a run wrote, to the output and to the error output, and its exit status. -/
structure Outcome where
  exit : Nat
  output : String
  errors : String
  deriving DecidableEq, Repr

/-- Why a run broke off. -/
inductive Failure where
  | arguments
  | settings (fault : Settings.Fault)
  | logLevel (name : String)
  | markup (fault : Markup.Fault)
  /-- the output cannot carry what was to be written -/
  | charset
  deriving DecidableEq, Repr

/-! ## Texts -/

/-- Lines, each with its end. -/
def withLineEnds (lines : List String) : String := String.join (lines.map (· ++ "\n"))

/-- What is wrong with the text of an expression. -/
def describe : ExpressionError → String
  | .lexical e => "Lex error: " ++ e.message
  | .grammatical e => "Parse error: " ++ e.message

/-- Says that there is no text. -/
def noText : String := "Błąd: podaj wyrażenie przez --text lub stdin"

/-- Writes to the output what it can carry. -/
def emit (set : Text.Charset) (outcome : Outcome) : Except Failure Outcome :=
  if set.carries outcome.output.toList then .ok outcome else .error .charset

/-- A text that is wrong ends the run. -/
def rejected (log : List String) (e : ExpressionError) : Outcome :=
  ⟨1, "", withLineEnds (log ++ [describe e])⟩

/-! ## Answering one text -/

/-- The text to answer: the given one, or else the input without the blanks at its ends. -/
def textToAnswer (given : Option String) (input : String) : List Char :=
  match given.filter (· ≠ "") with
  | some text => text.toList
  | none => Text.trim (Text.unifyLineEnds input.toList)

/-- A table as output. -/
def printTable (log : List String) (t : Table) : Except Failure Outcome :=
  match t.lines with
  | .ok lines => .ok ⟨0, withLineEnds (lines.map String.ofList), withLineEnds log⟩
  | .error e => .error (.markup e)

/-- Answers a text by its value, or by a table of the steps. -/
def answerValue (settings : Settings) (level : LogLevel) (set : Text.Charset) (o : Options)
    (text : List Char) : Except Failure Outcome :=
  let traced := trace (o.strict || settings.strict) text
  let log := level.lines traced.log
  match traced.result with
  | .error e => .ok (rejected log e)
  | .ok e =>
    if o.steps || settings.showSteps then
      printTable log (evaluationTable set (String.ofList text) e)
    else .ok ⟨0, withLineEnds [e.value.display], withLineEnds log⟩

/-- Answers a text by a table of its tokens. -/
def answerTokens (level : LogLevel) (set : Text.Charset) (text : List Char) :
    Except Failure Outcome :=
  let traced := traceTokens text
  let log := level.lines traced.log
  match traced.result with
  | .error e => .ok (rejected log (.lexical e))
  | .ok tokens => printTable log (tokenTable set tokens)

/-- Answers a text by its tree: in parentheses if it has to be compact, as a document if not. -/
def answerTree (settings : Settings) (level : LogLevel) (o : Options) (text : List Char) :
    Except Failure Outcome :=
  let traced := traceParse (o.strict || settings.strict) text
  let log := level.lines traced.log
  match traced.result with
  | .error e => .ok (rejected log e)
  | .ok e =>
    let shown := if o.compact then e.text else Json.write (some 2) e.document
    .ok ⟨0, withLineEnds [shown], withLineEnds log⟩

/-! ## Answering lines -/

/-- The lines of an input. -/
def inputLines (input : String) : List (List Char) := Text.lines (Text.unifyLineEnds input.toList)

/-- The answer to a line: its value, after its steps if they are to be shown, or what is
wrong with it. -/
def answerOf (settings : Settings) : Except ExpressionError Evaluation → String
  | .error e => describe e
  | .ok e =>
    let steps := if settings.showSteps then e.steps.map ("  " ++ ·) else []
    "\n".intercalate (steps ++ [e.value.display])

/-- The log and the answer of a line; a blank one has neither. -/
def answerLine (settings : Settings) (line : List Char) : Traced String :=
  if Text.isBlankLine line then ⟨[], ""⟩
  else
    let traced := trace settings.strict line
    ⟨traced.log, answerOf settings traced.result ++ "\n"⟩

/-- What is written to the output and to the error output. -/
structure Written where
  output : String
  errors : String
  deriving DecidableEq, Repr

/-- A turn of the loop behind the prompt: what is written when a line is read, or when the input
has ended. -/
def turn (settings : Settings) (level : LogLevel) : Option (List Char) → Written
  | some line =>
    let traced := answerLine settings line
    ⟨traced.result, withLineEnds (level.lines traced.log)⟩
  | none => ⟨"\n", ""⟩

/-- The prompt and a turn behind what was written before. -/
def Written.turned (w : Written) (settings : Settings) (level : LogLevel)
    (read : Option (List Char)) : Written :=
  let next := turn settings level read
  ⟨w.output ++ settings.prompt ++ next.output, w.errors ++ next.errors⟩

/-- The loop: turn after turn on the lines that are read, until the input has ended. -/
def converse (settings : Settings) (level : LogLevel) (w : Written) : List (List Char) → Written
  | [] => w.turned settings level none
  | line :: rest => converse settings level (w.turned settings level (some line)) rest

/-- Answers lines, each after the prompt; at the end of the input the prompt is left alone. -/
def answerLines (settings : Settings) (level : LogLevel) (lines : List (List Char)) : Outcome :=
  let written := converse settings level ⟨"", ""⟩ lines
  ⟨0, written.output, written.errors⟩

/-! ## Whole runs -/

/-- Does what a subcommand says. -/
def perform (settings : Settings) (level : LogLevel) (inv : Invocation) (subcommand : Subcommand)
    (o : Options) : Except Failure Outcome :=
  if subcommand = .loop then .ok (answerLines settings level (inputLines inv.input))
  else
    let text := textToAnswer o.text inv.input
    if text = [] then .ok ⟨1, "", withLineEnds [noText]⟩
    else
      match subcommand with
      | .tokens => answerTokens level inv.charset text
      | .tree => answerTree settings level o text
      | _ => answerValue settings level inv.charset o text

/-- The settings of an environment with the level of the log. -/
def configure (environment : List (String × String)) : Except Failure (Settings × LogLevel) :=
  match Settings.ofEnvironment environment with
  | .error e => .error (.settings e)
  | .ok settings =>
    match LogLevel.ofName? settings.logLevel with
    | none => .error (.logLevel settings.logLevel)
    | some level => .ok (settings, level)

/-- A whole run. -/
def run (inv : Invocation) : Except Failure Outcome :=
  match readArguments inv.arguments with
  | none => .error .arguments
  | some (subcommand, o) =>
    match configure inv.environment with
    | .error e => .error e
    | .ok (settings, level) =>
      match perform settings level inv subcommand o with
      | .error e => .error e
      | .ok outcome => emit inv.charset outcome

end Calculator.Command
