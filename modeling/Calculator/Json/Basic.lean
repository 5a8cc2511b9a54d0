/-
JSON values. Integers and reals are told apart by how they are written, and an
object keeps its members in order, a repeated name included; `member?` finds
the last of a name.
-/
import Calculator.Binary64.Basic

namespace Calculator

/-- A JSON value. -/
inductive Json where
  | null
  | bool (value : Bool)
  | integer (value : Int)
  | real (value : Binary64)
  | string (text : String)
  | array (items : List Json)
  | object (members : List (String × Json))
  deriving Repr

namespace Json

/-- The member of a name in a list of members: the last one counts. -/
def lookup? (members : List (String × Json)) (name : String) : Option Json :=
  (members.reverse.find? (·.1 = name)).map (·.2)

/-- The member of an object. -/
def member? (name : String) : Json → Option Json
  | object members => lookup? members name
  | _ => none

/-- The text that a value is. -/
def text? : Json → Option String
  | string text => some text
  | _ => none

/-- The integer that a value is. -/
def integer? : Json → Option Int
  | integer value => some value
  | _ => none

/-- The items of an array. -/
def items? : Json → Option (List Json)
  | array items => some items
  | _ => none

/-- The members of an object. -/
def members? : Json → Option (List (String × Json))
  | object members => some members
  | _ => none

mutual

/-- How many containers that are not empty stand inside one another. -/
def nesting : Json → Nat
  | array items => itemsNesting items
  | object members => membersNesting members
  | _ => 0

/-- The nesting of an array. -/
def itemsNesting : List Json → Nat
  | [] => 0
  | item :: rest => max (nesting item + 1) (itemsNesting rest)

/-- The nesting of an object. -/
def membersNesting : List (String × Json) → Nat
  | [] => 0
  | (_, value) :: rest => max (nesting value + 1) (membersNesting rest)

end

mutual

/-- All reals in the value are finite. -/
def isFinite : Json → Bool
  | real x => x.isFinite
  | array items => areFinite items
  | object members => haveFinite members
  | _ => true

/-- All reals in the items are finite. -/
def areFinite : List Json → Bool
  | [] => true
  | item :: rest => isFinite item && areFinite rest

/-- All reals in the members are finite. -/
def haveFinite : List (String × Json) → Bool
  | [] => true
  | (_, value) :: rest => isFinite value && haveFinite rest

end

end Json

end Calculator
