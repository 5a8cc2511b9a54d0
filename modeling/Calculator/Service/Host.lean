/-
The hosts that an address may name. What looks like an address of numbers has to
be one: four numbers below 256 with points between them, or, in brackets, eight
groups of hexadecimal digits with colons between them.
-/
import Calculator.Numeral
import Calculator.Text.Blank
import Calculator.Text.Digit

namespace Calculator.Service.Host

/-! ## Four numbers -/

/-- A number of an address: at most 255, and no zero before it. -/
def isByte (digits : List Char) : Bool :=
  digits ≠ [] && digits.length ≤ 3 && digits.all Char.isDigit && Numeral.value digits ≤ 255 &&
    (digits.length = 1 || digits.head? ≠ some '0')

/-- The text is four numbers with points between them. -/
def isFourNumbers (text : List Char) : Bool :=
  let parts := Text.cutAt (· = '.') text
  parts.length = 4 && parts.all isByte

/-- How far a text has come in a row of digits, any character, digits and so on, by all ways to
read it: an even number of parts is done, or an odd one whose last part are digits. -/
def partsAfter (done : List Nat) (c : Char) : List Nat :=
  done.flatMap fun n =>
    let more := if c.isDigit then [if n % 2 = 0 then n + 1 else n] else []
    if n % 2 = 1 then (n + 1) :: more else more

/-- The text is four runs of digits with one character between any two. -/
def looksNumeric (text : List Char) : Bool :=
  7 ∈ text.foldl (fun done c => ((partsAfter done c).filter (· ≤ 7)).eraseDups) [0]

/-! ## Eight groups -/

/-- A group of hexadecimal digits. -/
def isGroup (digits : List Char) : Bool :=
  digits ≠ [] && digits.length ≤ 4 && digits.all fun c => (Text.hexDigit? c).isSome

/-- The groups of an address; four numbers at its end count for two groups. -/
def groups (text : List Char) : List (List Char) :=
  let parts := Text.cutAt (· = ':') text
  let last := parts.getLast?.getD []
  if isFourNumbers last then parts.dropLast ++ [['0'], ['0']] else parts

/-- The groups on one side of a gap, which may be none at all. -/
def areGroups (side : List (List Char)) : Bool := side = [[]] || side.all isGroup

/-- How many groups they are. -/
def count (side : List (List Char)) : Nat := if side = [[]] then 0 else side.length

/-- The text is eight groups with colons between them; one gap of two colons stands for a group
or more. -/
def isEightGroups (text : List Char) : Bool :=
  let parts := groups text
  let gaps := (List.range parts.length).filter fun i =>
    0 < i ∧ i + 1 < parts.length ∧ parts[i]? = some []
  match gaps with
  | [] => parts.length = 8 && parts.all isGroup
  | [gap] =>
    let before := parts.take gap
    let behind := parts.drop (gap + 1)
    areGroups before && areGroups behind && count before + count behind ≤ 7
  | _ => false

/-- The text is eight groups, perhaps with a zone behind a percent sign. -/
def isZonedGroups (text : List Char) : Bool :=
  match Text.cutAt (· = '%') text with
  | [address] => isEightGroups address
  | [address, zone] => zone ≠ [] && isEightGroups address
  | _ => false

/-! ## Hosts -/

/-- The host stands in brackets. -/
def isBracketed (host : List Char) : Bool := host.head? = some '[' && host.getLast? = some ']'

/-- The host may be named. -/
def isValid (host : List Char) : Bool :=
  if looksNumeric host then isFourNumbers host
  else if isBracketed host then isZonedGroups (host.drop 1).dropLast
  else true

end Calculator.Service.Host
