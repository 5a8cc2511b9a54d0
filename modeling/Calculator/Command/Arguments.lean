/-
The arguments of the command line: a subcommand, and its options after it.

An option has a long name after two dashes and sometimes a short one, a letter
after one dash. A long name may be cut short as long as it stays unique. An
option that takes a text takes it from the next argument, or from its own
argument after an equals sign or right behind the letter. What is attached to
the letter of an option that takes none, in either way, are further letters.

Whether an argument is an option is settled by its form alone (`classify`): a
negative number is none, nor is an unknown name with a blank in it. Arguments
that are no options belong to no subcommand, and are not taken; nor is a request
for help, which is not given here.
-/
import Calculator.Text.Digit

namespace Calculator.Command

/-- What the command line can do. -/
inductive Subcommand where
  | loop
  | value
  | tokens
  | tree
  deriving DecidableEq, Repr

/-- What an option asks for. -/
inductive Flag where
  | help
  | text
  | steps
  | compact
  | strict
  deriving DecidableEq, Repr

namespace Subcommand

/-- The names of the subcommands. -/
def names : List (String × Subcommand) := [
  ("repl", loop), ("eval", value), ("tokens", tokens), ("ast", tree)]

/-- The options of a subcommand. -/
def options : Subcommand → List (String × Flag)
  | loop => [("-h", .help), ("--help", .help)]
  | value => [
    ("-h", .help), ("--help", .help), ("--text", .text), ("-t", .text), ("--steps", .steps),
    ("-s", .steps), ("--strict", .strict)]
  | tokens => [("-h", .help), ("--help", .help), ("--text", .text), ("-t", .text)]
  | tree => [
    ("-h", .help), ("--help", .help), ("--text", .text), ("-t", .text), ("--compact", .compact),
    ("-c", .compact), ("--strict", .strict)]

end Subcommand

/-! ## Classes of arguments -/

/-- What an argument is by its form. -/
inductive Argument where
  | plain (text : String)
  /-- two dashes alone -/
  | separator
  | unknown
  /-- an option, by its long or short name, and what is attached to the name -/
  | option (flag : Flag) (short : Bool) (attached : Option (List Char))
  deriving DecidableEq, Repr

/-- A text without one line feed at its end. -/
def withoutLineEnd (text : List Char) : List Char :=
  if text.getLast? = some '\n' then text.dropLast else text

/-- The characters are one digit or more. -/
def isDigits (text : List Char) : Bool := text ≠ [] && text.all Text.isDecimalDigit

/-- The argument is a negative number: a dash, and digits with at most one point, which
has digits behind it. -/
def isNegativeNumber (text : List Char) : Bool :=
  match withoutLineEnd text with
  | '-' :: body =>
    isDigits body ||
      match body.dropWhile Text.isDecimalDigit with
      | '.' :: fraction => isDigits fraction
      | _ => false
  | _ => false

/-- The name of an option, and what is assigned to it behind the first equals sign. -/
def cutAtEquals (text : List Char) : List Char × Option (List Char) :=
  match text.dropWhile (· ≠ '=') with
  | [] => (text, none)
  | _ :: value => (text.takeWhile (· ≠ '='), some value)

/-- The options that an argument may mean whose whole name is no option: the long ones that
its name begins, or the short one that its first letter is. -/
def abbreviated (options : List (String × Flag)) (text : List Char) : List Argument :=
  match text with
  | '-' :: '-' :: _ =>
    let (name, attached) := cutAtEquals text
    (options.filter fun o => name.isPrefixOf o.1.toList).map fun o => .option o.2 false attached
  | dash :: letter :: value =>
    (options.filter fun o => o.1.toList = [dash, letter]).map fun o =>
      .option o.2 true (some value)
  | _ => []

/-- The option of that whole name. -/
def named? (options : List (String × Flag)) (name : List Char) : Option Flag :=
  options.lookup (String.ofList name)

/-- The name is a short one. -/
def isShort (name : List Char) : Bool := name[1]? ≠ some '-'

/-- The option that an argument is by a whole name: the argument itself, or what stands before
its first equals sign. -/
def whole? (options : List (String × Flag)) (text : List Char) : Option Argument :=
  match named? options text with
  | some flag => some (.option flag (isShort text) .none)
  | none =>
    let (name, attached) := cutAtEquals text
    (named? options name).map fun flag => .option flag (isShort name) attached

/-- The class of one argument, unless it is ambiguous. -/
def classify (options : List (String × Flag)) (argument : String) : Option Argument :=
  let text := argument.toList
  if text.head? ≠ some '-' ∨ text = ['-'] then some (.plain argument)
  else if text = ['-', '-'] then some .separator
  else
    match whole? options text with
    | some option => some option
    | none =>
      match abbreviated options text with
      | [option] => some option
      | _ :: _ :: _ => none
      | [] => some (if isNegativeNumber text ∨ ' ' ∈ text then .plain argument else .unknown)

/-- The classes of arguments in order; what follows a separator is plain. -/
def classifyAll (options : List (String × Flag)) : List String → Option (List Argument)
  | [] => some []
  | argument :: rest =>
    match classify options argument with
    | none => none
    | some .separator => some (.separator :: rest.map .plain)
    | some form => (classifyAll options rest).map (form :: ·)

/-! ## What is asked for -/

/-- What the options ask for. -/
structure Options where
  text : Option String
  steps : Bool
  compact : Bool
  strict : Bool
  deriving DecidableEq, Repr

namespace Options

/-- Nothing is asked for. -/
def none : Options := ⟨.none, false, false, false⟩

/-- One flag more. -/
def set (o : Options) : Flag → Options
  | .steps => { o with steps := true }
  | .compact => { o with compact := true }
  | .strict => { o with strict := true }
  | _ => o

/-- The text; of several the last one counts. -/
def setText (o : Options) (text : String) : Options := { o with text := some text }

/-- The text that is attached to a name. A separator is no text, and takes back an earlier one. -/
def attachText (o : Options) (text : List Char) : Options :=
  { o with text := if text = ['-', '-'] then .none else some (String.ofList text) }

end Options

/-- What an option comes to: all is said, or a text is still due from the next argument. -/
inductive Reading where
  | complete (o : Options)
  | textDue (o : Options)
  deriving DecidableEq, Repr

/-- Reads an option with what is attached to it. Behind a letter that takes no text, further
letters may stand. -/
def readOption (options : List (String × Flag)) (o : Options) (flag : Flag) (short : Bool)
    (attached : Option (List Char)) : Option Reading :=
  match flag, attached with
  | .help, _ => none
  | .text, none => some (.textDue o)
  | .text, some text => some (.complete (o.attachText text))
  | flag, none => some (.complete (o.set flag))
  | flag, some (letter :: rest) =>
    if short then
      match named? options ['-', letter] with
      | some next =>
        readOption options (o.set flag) next true (if rest = [] then none else some rest)
      | none => none
    else none
  | _, some [] => none
termination_by (attached.map List.length).getD 0
decreasing_by
  split <;> simp

/-- Reads arguments in order. There is no place for an argument that is no option. -/
def readAll (options : List (String × Flag)) (o : Options) : List Argument → Option Options
  | [] => some o
  | .option flag short attached :: rest =>
    match readOption options o flag short attached, rest with
    | some (.complete o), rest => readAll options o rest
    | some (.textDue o), .plain text :: rest => readAll options (o.setText text) rest
    | _, _ => none
  | _ => none

/-- The subcommand that arguments name, and what its options ask for. -/
def readArguments (arguments : List String) : Option (Subcommand × Options) :=
  match arguments with
  | [] => none
  | name :: rest =>
    match Subcommand.names.lookup name with
    | none => none
    | some subcommand =>
      match classifyAll subcommand.options rest with
      | none => none
      | some forms => (readAll subcommand.options .none forms).map (subcommand, ·)

end Calculator.Command
