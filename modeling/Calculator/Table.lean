/-
Tables drawn with plain characters.

A table has a title, centred above it, and columns that are as wide as their
widest cell. It is framed, its columns are divided, and a head, if there is one,
is underlined. A cell may hold several lines. Cells are texts with markup.

A terminal shows a table as it is drawn here if the table `Fits` it. What it makes
of a wider one, whose columns it narrows and whose cells it cuts, is left out.
-/
import Calculator.Markup.Reader
import Calculator.Table.Cell

namespace Calculator

/-- A column: its head, and how its cells are laid out. -/
structure Column where
  head : String
  alignment : Table.Alignment
  deriving DecidableEq, Repr

/-- A table. -/
structure Table where
  title : String
  columns : List Column
  rows : List (List String)
  /-- the heads of the columns are drawn -/
  headed : Bool
  /-- a blank stands between the frame and the cells next to it -/
  spaced : Bool
  deriving DecidableEq, Repr

namespace Table

/-- A text as a cell. -/
def cell (text : String) : Except Markup.Fault Cell := Markup.read text.toList

/-! ## Layout -/

/-- The widths of columns, each that of its widest cell. -/
def widths (rows : List (List Cell)) (columns : Nat) : List Nat :=
  (List.range columns).map fun i =>
    (rows.map fun row => (row[i]?.map Cell.width).getD 0).max?.getD 0

/-- The cells of a row laid out in their columns. -/
def layoutRow (t : Table) (widths : List Nat) (row : List Cell) :
    Except Markup.Fault (List (List (List Char))) :=
  (t.columns.zip (widths.zip row)).mapM fun (column, width, cell) =>
    (cell.layout column.alignment width).mapError .style

/-! ## Drawing -/

/-- What stands before and after the cells of a row, inside the frame. -/
def edge (t : Table) : List Char := if t.spaced then [' '] else []

/-- A line of the frame: dashes as wide as the cells, with `joint` where columns meet. -/
def rule (t : Table) (widths : List Nat) (side joint : Char) : List Char :=
  let dashes := widths.map fun w => List.replicate w '-'
  let margin := List.replicate t.edge.length '-'
  [side] ++ margin ++ ['-', joint, '-'].intercalate dashes ++ margin ++ [side]

/-- The lines of a row. A cell that has fewer than the highest is filled up with blank ones. -/
def drawRow (t : Table) (widths : List Nat) (row : List (List (List Char))) :
    List (List Char) :=
  let height := (row.map List.length).max?.getD 0
  (List.range height).map fun n =>
    let parts := (widths.zip row).map fun (width, lines) => lines.getD n (Text.blanks width)
    ['|'] ++ t.edge ++ [' ', '|', ' '].intercalate parts ++ t.edge ++ ['|']

/-- The title centred over a width; an odd blank goes to the right. -/
def drawTitle (t : Table) (width : Nat) : List Char :=
  let title := t.title.toList
  let free := width - Text.width title
  Text.blanks (free / 2) ++ title ++ Text.blanks (free - free / 2)

/-- The lines of a table. -/
def lines (t : Table) : Except Markup.Fault (List (List Char)) := do
  let heads ← t.columns.mapM fun column => cell column.head
  let rows ← t.rows.mapM fun row => row.mapM cell
  let widths := widths (if t.headed then heads :: rows else rows) t.columns.length
  let frame := t.rule widths '+' '-'
  let head ← if t.headed then t.layoutRow widths heads else pure []
  let body ← rows.mapM (t.layoutRow widths)
  let top := if t.headed then t.drawRow widths head ++ [t.rule widths '|' '+'] else []
  return [t.drawTitle frame.length, frame] ++ top ++ body.flatMap (t.drawRow widths) ++ [frame]

/-- No line of the table is wider than a terminal with so many columns. -/
def Fits (columns : Nat) (t : Table) : Prop :=
  ∀ lines, t.lines = .ok lines → ∀ line ∈ lines, Text.width line ≤ columns

end Table

end Calculator
