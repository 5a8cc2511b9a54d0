/-
Tables of code points. A property of characters is given by the ranges of code
points that have it, and `covers` looks a character up.
-/
namespace Calculator.Text

/-- A range of code points, both ends included. -/
abbrev Range := Nat × Nat

namespace Range

/-- The code point lies in the range. -/
def has (r : Range) (code : Nat) : Bool := r.1 ≤ code && code ≤ r.2

/-- The character lies in one of the ranges. -/
def covers (table : List Range) (c : Char) : Bool := table.any (·.has c.toNat)

theorem covers_eq_true_iff {table : List Range} {c : Char} :
    covers table c = true ↔ ∃ r ∈ table, r.1 ≤ c.toNat ∧ c.toNat ≤ r.2 := by
  simp [covers, has, List.any_eq_true]

end Range

end Calculator.Text
