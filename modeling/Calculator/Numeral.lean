/-
Decimal numerals of any length, and integers as text.

A conversion between digits and a number takes at most `longest` digits, in
either direction (`ofDigits?`, `text?`). A run of digits of any length is read
all the same, chunk by chunk (`read`), and its value is the plain fold over its
digits (`value`). An integer too long for a text is shown by its size in bits.
-/
import Calculator.Text.Blank

namespace Calculator.Numeral

/-- The most digits that one conversion takes. -/
def longest : Nat := 4300

/-! ## Reading -/

/-- The number that a digit stands for. -/
def digit (c : Char) : Nat := c.toNat - '0'.toNat

/-- The positional value of a run of digits. -/
def value (run : List Char) : Nat := run.foldl (fun n c => 10 * n + digit c) 0

/-- One conversion: the value of a run of digits, refused if it is empty or too long. -/
def ofDigits? (run : List Char) : Option Nat :=
  if run ≠ [] ∧ run.length ≤ longest then some (value run) else none

/-- The digits converted at once when a long run is read. -/
def chunk : Nat := 1000

/-- The number that `high` becomes when the digits of `run` are written after it,
converted chunk by chunk. -/
def readAfter (high : Nat) (run : List Char) : Nat :=
  if _h : run = [] then high
  else
    let first := run.take chunk
    readAfter (high * Nat.pow 10 first.length + (ofDigits? first).getD 0) (run.drop chunk)
termination_by run.length
decreasing_by
  have := List.length_pos_iff.2 _h
  simp only [List.length_drop, chunk]; omega

/-- The value of a run of digits of any length. -/
def read (run : List Char) : Nat := readAfter 0 run

/-- The value of digits with low lines between them, of which no two stand in a row. -/
def ofGroups? (text : List Char) : Option Nat :=
  let groups := Text.cutAt (· = '_') text
  if groups.all fun group => group ≠ [] ∧ group.all Char.isDigit then ofDigits? groups.flatten
  else none

/-- The integer that a text spells: groups of digits, with a sign before them or none. -/
def signed? (text : List Char) : Option Int :=
  match text with
  | '-' :: rest => (ofGroups? rest).map fun n => -(n : Int)
  | '+' :: rest => (ofGroups? rest).map fun n => (n : Int)
  | _ => (ofGroups? text).map fun n => (n : Int)

/-! ## Writing -/

/-- The decimal text of an integer of any length. -/
def decimal (n : Int) : String :=
  if n < 0 then "-" ++ n.natAbs.repr else n.natAbs.repr

/-- One conversion: the decimal text of an integer, refused if it has too many digits. -/
def text? (n : Int) : Option String :=
  if n.natAbs < Nat.pow 10 longest then some (decimal n) else none

/-- What stands for an integer too long for a text: its size in bits. -/
def sizeText (n : Int) : String := "<" ++ (n.natAbs.log2 + 1).repr ++ "-bit integer>"

/-- An integer as it is shown. -/
def text (n : Int) : String := (text? n).getD (sizeText n)

end Calculator.Numeral
