/-
The cells of a table: styled texts that are laid out in a column.

A cell asks for the columns that its widest line takes (`width`). Laid out in a
room it has lines of just this width (`layout`): tabs are blanks there, a line
that may wrap is divided between words, blanks at the end of a line that is too
long are dropped, and what is still too wide ends in an ellipsis.
-/
import Calculator.Markup.Styled

namespace Calculator.Table

open Markup (Styled StyleFault)

/-- A cell of a table. -/
abbrev Cell := Styled

/-- How the cells of a column are laid out. -/
structure Alignment where
  /-- blanks are put in front of what is too narrow, not behind it -/
  atRight : Bool
  /-- a line too wide goes on in the next one -/
  wraps : Bool
  deriving DecidableEq, Repr

namespace Cell

/-! ## The width that a cell asks for -/

/-- The character ends a line, to those who count all that may: besides the line feed there are
tabulations, separators, the next line, and the ends of lines and of paragraphs. -/
def endsLine (c : Char) : Bool :=
  (10 ≤ c.toNat && c.toNat ≤ 13) || (0x1c ≤ c.toNat && c.toNat ≤ 0x1e) || c.toNat = 0x85 ||
    c.toNat = 0x2028 || c.toNat = 0x2029

/-- The columns that a cell asks for. -/
def width (c : Cell) : Nat := (((Text.cutAt endsLine c.text).map Text.width).max?).getD 0

/-! ## Words -/

/-- The length of the word at the front of a text, with the blanks around it; of blanks alone it
is zero. -/
def wordLength (text : List Char) : Nat :=
  let before := text.takeWhile Text.isBlank
  let rest := text.drop before.length
  let word := rest.takeWhile fun c => !Text.isBlank c
  let behind := (rest.drop word.length).takeWhile Text.isBlank
  if word = [] then 0 else before.length + word.length + behind.length

/-- The words of a text, each with the blanks around it. -/
def words (text : List Char) : List (List Char) :=
  if _h : wordLength text = 0 then []
  else text.take (wordLength text) :: words (text.drop (wordLength text))
termination_by text.length
decreasing_by
  have hpos : text ≠ [] := by rintro rfl; exact _h (by decide)
  have := List.length_pos_iff.2 hpos
  simp only [List.length_drop]; omega

/-- A word without the blanks at its end. -/
def trimWord (word : List Char) : List Char :=
  (word.reverse.dropWhile Text.isBlank).reverse

/-- The positions where a text is divided so that its lines fit into `room`. Of the text `start`
characters are done, and `filled` columns of the line are taken. A word wider than the room has a
line of its own. -/
def breaksAfter (room start filled : Nat) : List (List Char) → List Nat
  | [] => []
  | word :: rest =>
    let next := start + word.length
    let needed := Text.width (trimWord word)
    if needed ≤ room - filled ∧ filled ≤ room then
      breaksAfter room next (filled + Text.width word) rest
    else if start ≠ 0 ∧ (room < needed ∨ filled ≠ 0) then
      start :: breaksAfter room next (Text.width word) rest
    else breaksAfter room next (if room < needed then Text.width word else filled) rest

/-- The positions where a text is divided so that its lines fit into `room`. -/
def breaks (room : Nat) (text : List Char) : List Nat := breaksAfter room 0 0 (words text)

/-! ## Layout -/

/-- A line brought to a width. -/
def align (a : Alignment) (room : Nat) (line : Styled) : Styled :=
  let line := line.trimEnd room
  if a.atRight then ((line.dropEnd (Styled.endBlanks line.text)).shorten room).padLeft room
  else (line.shorten room).padRight room

/-- The lines of a cell. -/
def lines (a : Alignment) (room : Nat) (c : Cell) : List Styled :=
  let lines := (Styled.lines c).map Styled.expandTabs
  let lines := if a.wraps then lines.flatMap fun s => s.cut (breaks room s.text) else lines
  lines.map (align a room)

/-- Runs put together to a line of a width: it is filled up with blanks, or the run where the
room ends is cut off. -/
def fillRuns (room : Nat) : List (List Char) → List Char
  | [] => Text.blanks room
  | run :: rest =>
    if Text.width run < room then run ++ fillRuns (room - Text.width run) rest
    else Text.fit room run

/-- The characters of a line; those of a run take as many columns as they would on their own. -/
def lineText (room : Nat) (line : Styled) : List Char :=
  let runs := line.runs
  if (runs.map Text.width).foldl (· + ·) 0 = room then line.text else fillRuns room runs

/-- A cell laid out in a room. -/
def layout (a : Alignment) (room : Nat) (c : Cell) : Except StyleFault (List (List Char)) := do
  let lines := lines a room c
  lines.forM Styled.check
  return lines.map (lineText room)

end Cell

end Calculator.Table
