/-
The fully parenthesised text of an expression.

`spelling` says by recursion what the text is. `text` produces it with a stack
of nodes still to be written and a stack of the texts that are finished, so a
tree may be as deep as it likes; `write_visit` says that a walk over a tree puts
exactly its text on the stack, whatever else lies there.
-/
import Calculator.Expr.Basic

namespace Calculator.Expr

/-- The text of an expression, every sign and operator in parentheses. -/
def spelling : Expr → String
  | number value => Numeral.text value
  | unary sign operand => "(" ++ sign.symbol.toString ++ operand.spelling ++ ")"
  | binary left op right =>
    "(" ++ left.spelling ++ " " ++ op.symbol.toString ++ " " ++ right.spelling ++ ")"

/-! ## Writing without recursion into the tree -/

/-- The work that the nodes on a stack still mean. -/
def pendingWork : List (Expr × Bool) → Nat
  | [] => 0
  | (_, true) :: rest => 1 + pendingWork rest
  | (e, false) :: rest => 2 * e.size + pendingWork rest

/-- Writes the nodes on the stack, the top one first. A node that is not expanded is put back as
expanded, and its operands above it; one that is expanded finds their texts on top of `parts`, the
right one above the left, and leaves its own in their place. There is no answer if one is missing. -/
def write (parts : List String) (stack : List (Expr × Bool)) : Option (List String) :=
  match stack with
  | [] => some parts
  | (number value, _) :: rest => write (Numeral.text value :: parts) rest
  | (unary sign operand, false) :: rest =>
    write parts ((operand, false) :: (unary sign operand, true) :: rest)
  | (unary sign _, true) :: rest =>
    match parts with
    | operand :: parts => write (("(" ++ sign.symbol.toString ++ operand ++ ")") :: parts) rest
    | [] => none
  | (binary left op right, false) :: rest =>
    write parts ((left, false) :: (right, false) :: (binary left op right, true) :: rest)
  | (binary _ op _, true) :: rest =>
    match parts with
    | right :: left :: parts =>
      write (("(" ++ left ++ " " ++ op.symbol.toString ++ " " ++ right ++ ")") :: parts) rest
    | _ => none
termination_by pendingWork stack
decreasing_by
  · rename_i expanded
    cases expanded <;> simp only [pendingWork, size] <;> omega
  all_goals simp only [pendingWork, size]; omega

/-- The walk over a tree puts its text on the stack of the parts. -/
theorem write_visit (e : Expr) (parts : List String) (rest : List (Expr × Bool)) :
    write parts ((e, false) :: rest) = write (e.spelling :: parts) rest := by
  induction e generalizing parts rest with
  | number value => rw [write, spelling]
  | unary sign operand ih => rw [write, ih, write, spelling]
  | binary left op right ihl ihr => rw [write, ihl, ihr, write, spelling]

/-- The text of an expression. -/
def text (e : Expr) : String :=
  match write [] [(e, false)] with
  | some (text :: _) => text
  | _ => ""

theorem text_eq_spelling (e : Expr) : e.text = e.spelling := by
  rw [text, write_visit, write]

end Calculator.Expr
