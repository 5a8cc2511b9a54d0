/-
JSON values as text, on one line without blanks or indented.

In a string only the quote, the backslash and the control characters are
escaped. A number that JSON has no text for is written as `null`.
-/
import Calculator.Binary64.Display
import Calculator.Json.Basic
import Calculator.Text.Quoted

namespace Calculator.Json

/-! ## Strings -/

/-- The character as it is written in a string. -/
def escaped (c : Char) : List Char :=
  if c = '"' then ['\\', '"']
  else if c = '\\' then ['\\', '\\']
  else if c = '\n' then ['\\', 'n']
  else if c = '\r' then ['\\', 'r']
  else if c = '\t' then ['\\', 't']
  else if c = '\x08' then ['\\', 'b']
  else if c = '\x0c' then ['\\', 'f']
  else if c.toNat < 0x20 then ['\\', 'u'] ++ (Text.hex 4 c.toNat).toList
  else [c]

/-- A string between its quotes. -/
def quoted (text : String) : String := "\"" ++ String.ofList (text.toList.flatMap escaped) ++ "\""

/-! ## Values -/

/-- A number as text. -/
def realText (x : Binary64) : String := if x.isFinite then x.text else "null"

/-- What separates the entries of a container that stand `depth` levels in. -/
def lineBreak (indent : Option Nat) (depth : Nat) : String :=
  match indent with
  | none => ""
  | some width => "\n" ++ String.ofList (List.replicate (width * depth) ' ')

/-- A container with its entries, which stand `depth` levels in. -/
def enclose (indent : Option Nat) (depth : Nat) (opening closing : String) (entries : List String) :
    String :=
  if entries = [] then opening ++ closing
  else
    let separator := lineBreak indent depth
    opening ++ separator ++ ("," ++ separator).intercalate entries ++
      lineBreak indent (depth - 1) ++ closing

/-- What follows the name of a member. -/
def nameMark (indent : Option Nat) : String := if indent.isNone then ":" else ": "

mutual

/-- A value that stands `depth` levels in. -/
def writeAt (indent : Option Nat) (depth : Nat) : Json → String
  | null => "null"
  | bool true => "true"
  | bool false => "false"
  | integer value => Numeral.decimal value
  | real value => realText value
  | string text => quoted text
  | array items => enclose indent (depth + 1) "[" "]" (writeItems indent (depth + 1) items)
  | object members =>
    enclose indent (depth + 1) "\x7b" "\x7d" (writeMembers indent (depth + 1) members)

/-- The items of an array. -/
def writeItems (indent : Option Nat) (depth : Nat) : List Json → List String
  | [] => []
  | item :: rest => writeAt indent depth item :: writeItems indent depth rest

/-- The members of an object. -/
def writeMembers (indent : Option Nat) (depth : Nat) : List (String × Json) → List String
  | [] => []
  | (name, value) :: rest =>
    (quoted name ++ nameMark indent ++ writeAt indent depth value) :: writeMembers indent depth rest

end

/-- A value as text: indented by so many blanks a level, or on one line. -/
def write (indent : Option Nat) (value : Json) : String := writeAt indent 0 value

end Calculator.Json
