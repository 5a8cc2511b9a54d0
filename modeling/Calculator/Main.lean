/-
The program. It gathers what a run is given and writes what it comes to. The
input is read only where a run needs it, and `repl` reads and answers it line by
line.
-/
import Calculator.Command.Run

namespace Calculator.Program

open Command

/-- The names of the settings in the environment. -/
def settingNames : List String :=
  ["APP_TITLE", "APP_VERSION", "LOG_LEVEL", "PROMPT", "SHOW_STEPS", "STRICT_TRAILING_INPUT"]

/-- The variables of the environment that set something. -/
def readEnvironment : IO (List (String × String)) :=
  settingNames.filterMapM fun name => do
    let key := "ARYTMOS_" ++ name
    return (← IO.getEnv key).map (key, ·)

/-- Writes a text at once. -/
def put (stream : IO.FS.Stream) (text : String) : IO Unit := do
  stream.putStr text
  stream.flush

/-- The next line: a pending one, or else the first of what the input has next, unless it has
ended; and the lines that are pending behind it. -/
def nextLine : List (List Char) → IO (Option (List Char) × List (List Char))
  | line :: pending => return (some line, pending)
  | [] => do
    match inputLines (← (← IO.getStdin).getLine) with
    | line :: pending => return (some line, pending)
    | [] => return (none, [])

/-- The loop, which reads each line when its turn has come. -/
partial def converse (settings : Settings) (level : LogLevel) (pending : List (List Char)) :
    IO Unit := do
  put (← IO.getStdout) settings.prompt
  let (read, pending) ← nextLine pending
  let written := turn settings level read
  put (← IO.getStderr) written.errors
  put (← IO.getStdout) written.output
  if read.isSome then converse settings level pending

/-- Reads the input to its end. -/
partial def readInput (stream : IO.FS.Stream) (read : String) : IO String := do
  let line ← stream.getLine
  if line.isEmpty then return read else readInput stream (read ++ line)

/-- Why a run broke off, in words. -/
def explain : Failure → String
  | .arguments => "usage: arytmos [repl | eval | tokens | ast] [options]"
  | .settings fault => "invalid setting: " ++ fault.name
  | .logLevel name => "unknown level: " ++ name
  | .markup (.unopened name) => "closing tag without opening tag: " ++ name
  | .markup (.action value) => "no parameters of an action: " ++ value
  | .markup (.style _) => "components of a colour are no numbers"
  | .charset => "output cannot be encoded"

/-- The exit status of a run that broke off. -/
def exitStatus : Failure → UInt32
  | .arguments => 2
  | _ => 1

/-- Ends a run that broke off. -/
def fail (failure : Failure) : IO UInt32 := do
  put (← IO.getStderr) (explain failure ++ "\n")
  return exitStatus failure

/-- Does what a subcommand says. -/
def perform (settings : Settings) (level : LogLevel) (subcommand : Subcommand) (o : Options) :
    IO UInt32 := do
  if subcommand = .loop then
    Program.converse settings level []
    return 0
  let input ← if (o.text.filter (· ≠ "")).isSome then pure "" else readInput (← IO.getStdin) ""
  match Command.perform settings level ⟨[], [], input, .unicode⟩ subcommand o with
  | .error failure => fail failure
  | .ok outcome =>
    put (← IO.getStderr) outcome.errors
    put (← IO.getStdout) outcome.output
    return outcome.exit.toUInt32

end Calculator.Program

/-- Runs the command line. -/
def main (arguments : List String) : IO UInt32 := do
  match Calculator.Command.readArguments arguments with
  | none => Calculator.Program.fail .arguments
  | some (subcommand, o) =>
    match Calculator.Command.configure (← Calculator.Program.readEnvironment) with
    | .error failure => Calculator.Program.fail failure
    | .ok (settings, level) => Calculator.Program.perform settings level subcommand o
