/-
Yes and no in other values. A switch may be given as a word, in small or capital
letters, or as the number one or zero. Numbers of other sizes are unclear, as
long as they are integers of 64 bits.
-/
import Calculator.Json.Integer

namespace Calculator.Switch

/-- The words for yes. -/
def yesWords : List String := ["true", "1", "yes", "y", "on", "t"]

/-- The words for no. -/
def noWords : List String := ["false", "0", "no", "n", "off", "f"]

/-- What a word says. -/
def ofText? (text : String) : Option Bool :=
  let word := String.ofList (text.toList.map Char.toLower)
  if word ∈ yesWords then some true else if word ∈ noWords then some false else none

/-- What a number says. -/
def ofInt? (n : Int) : Option Bool :=
  if n = 1 then some true else if n = 0 then some false else none

/-- Why a value is no switch. -/
inductive Fault where
  /-- a word or a whole number that says neither -/
  | unclear
  /-- a value of another kind -/
  | wrongKind
  deriving DecidableEq, Repr

/-- What a word or a number says, if it says anything. -/
def decided (answer : Option Bool) : Except Fault Bool :=
  match answer with
  | some value => .ok value
  | none => .error .unclear

/-- What a value says. -/
def ofJson : Json → Except Fault Bool
  | .bool value => .ok value
  | .string text => decided (ofText? text)
  | .integer n => if Json.isWord n then decided (ofInt? n) else .error .wrongKind
  | .real x =>
    match Json.wordOfReal? x with
    | some n => decided (ofInt? n)
    | none => .error .wrongKind
  | _ => .error .wrongKind

end Calculator.Switch
