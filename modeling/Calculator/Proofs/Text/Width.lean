/-
The width of a line in which no character changes the width of its neighbours
(`Independent`) is the sum of the columns of its characters (`width_eq_sum`), so
that widths of parts add up.
-/
import Calculator.Text.Width
import Mathlib.Algebra.GroupWithZero.Nat

namespace Calculator.Text

/-- No joiner and no selector is in the line. -/
def Independent (line : List Char) : Prop := joiner ∉ line ∧ selector ∉ line

theorem Independent.of_subset {part line : List Char} (h : Independent line)
    (hpart : ∀ c ∈ part, c ∈ line) : Independent part :=
  ⟨fun hc => h.1 (hpart _ hc), fun hc => h.2 (hpart _ hc)⟩

theorem independent_cons {c : Char} {line : List Char} :
    Independent (c :: line) ↔ (c ≠ joiner ∧ c ≠ selector) ∧ Independent line := by
  simp only [Independent, List.mem_cons, not_or, ne_comm]
  exact and_and_and_comm

theorem independent_append {before after : List Char} :
    Independent (before ++ after) ↔ Independent before ∧ Independent after := by
  simp only [Independent, List.mem_append, not_or]
  exact and_and_and_comm

theorem independent_blanks (n : Nat) : Independent (blanks n) := by
  constructor
  · intro h
    cases List.eq_of_mem_replicate h
  · intro h
    cases List.eq_of_mem_replicate h

theorem widthAfter_eq_sum {line : List Char} (h : Independent line) (last : Option Char) :
    widthAfter last line = (line.map columns).sum := by
  induction line generalizing last with
  | nil => rfl
  | cons c line ih =>
    obtain ⟨⟨hjoiner, hselector⟩, hline⟩ := independent_cons.1 h
    rw [widthAfter.eq_def]
    dsimp only
    rw [if_neg hjoiner, if_neg hselector, List.map_cons, List.sum_cons]
    split
    · rename_i hzero
      rw [hzero, Nat.zero_add, ih hline]
    · rw [ih hline]

theorem width_eq_sum {line : List Char} (h : Independent line) :
    width line = (line.map columns).sum := widthAfter_eq_sum h none

/-- **The width of two parts** is that of the one and that of the other. -/
theorem width_append {before after : List Char} (h : Independent (before ++ after)) :
    width (before ++ after) = width before + width after := by
  obtain ⟨hbefore, hafter⟩ := independent_append.1 h
  rw [width_eq_sum h, width_eq_sum hbefore, width_eq_sum hafter, List.map_append, List.sum_append]

theorem width_le_of_isPrefix {part line : List Char} (h : Independent line) (hpart : part <+: line) :
    width part ≤ width line := by
  obtain ⟨rest, rfl⟩ := hpart
  rw [width_append h]
  omega

theorem width_blanks (n : Nat) : width (blanks n) = n := by
  have hone : columns ' ' = 1 := by decide +kernel
  rw [width_eq_sum (independent_blanks n), blanks, List.map_replicate, hone]
  simp

end Calculator.Text
