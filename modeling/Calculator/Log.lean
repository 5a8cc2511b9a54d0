/-
Lines of the log, and the level from which on lines are written. Every line is
for debugging, so a level either lets all of them through or none.
-/
namespace Calculator

/-- A line of the log: where it comes from, and what it says. -/
structure LogLine where
  source : String
  message : String
  deriving DecidableEq, Repr

/-- The line as it is written. -/
def LogLine.text (line : LogLine) : String := "DEBUG:" ++ line.source ++ ":" ++ line.message

/-- The levels, by rising weight. -/
inductive LogLevel where
  | all
  | debug
  | info
  | warning
  | error
  | critical
  deriving DecidableEq, Repr

namespace LogLevel

/-- The names of the levels, in capitals. -/
def names : List (String × LogLevel) := [
  ("NOTSET", all), ("DEBUG", debug), ("INFO", info), ("WARN", warning), ("WARNING", warning),
  ("ERROR", error), ("FATAL", critical), ("CRITICAL", critical)]

/-- The capital of a letter, as far as the names of the levels go: beside the plain letters,
the dotless i and the long s have capitals among theirs. -/
def capital (c : Char) : Char :=
  if c = 'ı' then 'I' else if c = 'ſ' then 'S' else c.toUpper

/-- The level of a name, in small or capital letters. -/
def ofName? (name : String) : Option LogLevel :=
  names.lookup (String.ofList (name.toList.map capital))

/-- Lines for debugging are written. -/
def isVerbose (level : LogLevel) : Bool := level = all || level = debug

/-- The lines that the level lets through. -/
def lines (level : LogLevel) (log : List LogLine) : List String :=
  if level.isVerbose then log.map LogLine.text else []

end LogLevel

end Calculator
