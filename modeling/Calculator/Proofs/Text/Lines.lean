/-
The lines of a text, said without cutting it up (`Lines`): each has no line end
in it, and is followed by one, by a line feed, a carriage return, or the one
behind the other. What stands after the last line end is a line unless it is
empty.

Every text has lines, and no others than those that it is cut into
(`lines_unifyLineEnds_eq_iff`). The lines of two texts, one behind the other,
are those of both if the first ends in a line end (`Lines.append`).
-/
import Calculator.Text.Blank

namespace Calculator.Text

/-! ## Lines -/

/-- There is no line end in the line. -/
def Unbroken (line : List Char) : Prop := '\n' ∉ line ∧ '\r' ∉ line

instance : DecidablePred Unbroken := fun _ => inferInstanceAs (Decidable (_ ∧ _))

/-- What ends a line. -/
def lineEnds : List (List Char) := [['\n'], ['\r', '\n'], ['\r']]

/-- The text has these lines. A carriage return with a line feed behind it is no line end by
itself. -/
inductive Lines : List Char → List (List Char) → Prop where
  | nil : Lines [] []
  | last {line : List Char} (nonempty : line ≠ []) (unbroken : Unbroken line) : Lines line [line]
  | cons {line lineEnd rest : List Char} {more : List (List Char)} (unbroken : Unbroken line)
      (ended : lineEnd ∈ lineEnds) (whole : lineEnd = ['\r'] → rest.head? ≠ some '\n')
      (tail : Lines rest more) : Lines (line ++ (lineEnd ++ rest)) (line :: more)

theorem unbroken_nil : Unbroken [] := ⟨List.not_mem_nil, List.not_mem_nil⟩

theorem unbroken_cons {c : Char} {line : List Char} :
    Unbroken (c :: line) ↔ (c ≠ '\n' ∧ c ≠ '\r') ∧ Unbroken line := by
  simp only [Unbroken, List.mem_cons, not_or, ne_comm]
  exact and_and_and_comm

theorem Lines.blank {lineEnd rest : List Char} {more : List (List Char)} (ended : lineEnd ∈ lineEnds)
    (whole : lineEnd = ['\r'] → rest.head? ≠ some '\n') (tail : Lines rest more) :
    Lines (lineEnd ++ rest) ([] :: more) :=
  .cons unbroken_nil ended whole tail

/-! ## Cutting -/

theorem unifyLineEnds_cons {c : Char} (hcr : c ≠ '\r') (rest : List Char) :
    unifyLineEnds (c :: rest) = c :: unifyLineEnds rest := by
  rw [unifyLineEnds]
  · rw [if_neg hcr]
  · exact fun _ heq => absurd heq hcr

theorem unifyLineEnds_append {line : List Char} (h : Unbroken line) (rest : List Char) :
    unifyLineEnds (line ++ rest) = line ++ unifyLineEnds rest := by
  induction line with
  | nil => rfl
  | cons c line ih =>
    obtain ⟨⟨-, hcr⟩, hline⟩ := unbroken_cons.1 h
    rw [List.cons_append, unifyLineEnds_cons hcr, ih hline, List.cons_append]

theorem unifyLineEnds_lineEnd {lineEnd rest : List Char} (ended : lineEnd ∈ lineEnds)
    (whole : lineEnd = ['\r'] → rest.head? ≠ some '\n') :
    unifyLineEnds (lineEnd ++ rest) = '\n' :: unifyLineEnds rest := by
  simp only [lineEnds, List.mem_cons, List.not_mem_nil, or_false] at ended
  obtain rfl | rfl | rfl := ended
  · exact unifyLineEnds_cons (by decide) rest
  · rw [List.cons_append, List.singleton_append, unifyLineEnds]
  · rw [List.singleton_append, unifyLineEnds]
    · rfl
    · rintro _ - rfl
      exact whole rfl rfl

theorem lines_append_lineFeed {line : List Char} (h : '\n' ∉ line) (rest : List Char) :
    lines (line ++ '\n' :: rest) = line :: lines rest := by
  induction line with
  | nil => simp [lines]
  | cons c line ih =>
    rw [List.mem_cons, not_or] at h
    rw [List.cons_append, lines, if_neg (Ne.symm h.1), ih h.2]

theorem lines_eq_singleton {line : List Char} (hne : line ≠ []) (h : '\n' ∉ line) :
    lines line = [line] := by
  induction line with
  | nil => exact absurd rfl hne
  | cons c line ih =>
    rw [List.mem_cons, not_or] at h
    rw [lines, if_neg (Ne.symm h.1)]
    by_cases hline : line = []
    · rw [hline, lines]
    · rw [ih hline h.2]

theorem lines_eq_of_lines {text : List Char} {ls : List (List Char)} (h : Lines text ls) :
    lines (unifyLineEnds text) = ls := by
  induction h with
  | nil => rfl
  | @last line nonempty unbroken =>
    have heq : unifyLineEnds line = line := by
      simpa [unifyLineEnds] using unifyLineEnds_append unbroken []
    rw [heq, lines_eq_singleton nonempty unbroken.1]
  | cons unbroken ended whole _ ih =>
    rw [unifyLineEnds_append unbroken, unifyLineEnds_lineEnd ended whole,
      lines_append_lineFeed unbroken.1, ih]

theorem Lines.push {c : Char} {text : List Char} (hlf : c ≠ '\n') (hcr : c ≠ '\r')
    (h : Lines text (lines (unifyLineEnds text))) :
    Lines (c :: text) (lines (unifyLineEnds (c :: text))) := by
  rw [unifyLineEnds_cons hcr, lines, if_neg hlf]
  generalize lines (unifyLineEnds text) = ls at h
  cases h with
  | nil => exact .last (List.cons_ne_nil _ _) (unbroken_cons.2 ⟨⟨hlf, hcr⟩, unbroken_nil⟩)
  | last _ unbroken => exact .last (List.cons_ne_nil _ _) (unbroken_cons.2 ⟨⟨hlf, hcr⟩, unbroken⟩)
  | cons unbroken ended whole tail =>
    exact .cons (unbroken_cons.2 ⟨⟨hlf, hcr⟩, unbroken⟩) ended whole tail

theorem lines_lines (text : List Char) : Lines text (lines (unifyLineEnds text)) := by
  fun_induction unifyLineEnds text with
  | case1 => exact .nil
  | case2 rest ih =>
    rw [lines, if_pos rfl]
    exact .blank (by decide : ['\r', '\n'] ∈ lineEnds) nofun ih
  | case3 c rest hpair ih =>
    by_cases hcr : c = '\r'
    · subst hcr
      have hhead : rest.head? ≠ some '\n' := by
        intro h
        obtain ⟨more, rfl⟩ := List.head?_eq_some_iff.1 h
        exact hpair more rfl rfl
      rw [if_pos rfl, lines, if_pos rfl]
      exact .blank (by decide : ['\r'] ∈ lineEnds) (fun _ => hhead) ih
    · by_cases hlf : c = '\n'
      · subst hlf
        rw [if_neg hcr, lines, if_pos rfl]
        exact .blank (by decide : ['\n'] ∈ lineEnds) nofun ih
      · have hpush := ih.push hlf hcr
        rw [unifyLineEnds_cons hcr] at hpush
        rwa [if_neg hcr]

/-- **A text has just the lines that it is cut into,** once its line ends are unified. -/
theorem lines_unifyLineEnds_eq_iff {text : List Char} {ls : List (List Char)} :
    lines (unifyLineEnds text) = ls ↔ Lines text ls :=
  ⟨fun h => h ▸ lines_lines text, lines_eq_of_lines⟩

/-! ## One text behind the other -/

/-- The first text ends in a line end, which does not go on in the second one. -/
def EndsLine (x y : List Char) : Prop :=
  x.getLast? = some '\n' ∨ x.getLast? = some '\r' ∧ y.head? ≠ some '\n'

theorem not_endsLine_of_unbroken {line rest : List Char} (h : Unbroken line) :
    ¬EndsLine line rest := by
  rintro (hlast | ⟨hlast, -⟩)
  · exact h.1 (List.mem_of_getLast? hlast)
  · exact h.2 (List.mem_of_getLast? hlast)

/-- **The lines of two texts, one behind the other,** are those of the first and then those of the
second if the first ends in a line end. -/
theorem Lines.append {x y : List Char} {xs ys : List (List Char)} (hx : Lines x xs)
    (hy : Lines y ys) (h : EndsLine x y) : Lines (x ++ y) (xs ++ ys) := by
  induction hx with
  | nil => exact hy
  | last _ unbroken => exact absurd h (not_endsLine_of_unbroken unbroken)
  | @cons line lineEnd rest more unbroken ended whole tail ih =>
    have hassoc : line ++ (lineEnd ++ rest) ++ y = line ++ (lineEnd ++ (rest ++ y)) := by simp
    rw [hassoc, List.cons_append]
    cases rest with
    | nil => -- the line end is the last one of the first text
      obtain rfl : [] = more := lines_eq_of_lines tail
      refine .cons unbroken ended (fun hcr => ?_) hy
      subst hcr
      obtain hlast | ⟨-, hhead⟩ := h
      · simp at hlast
      · exact hhead
    | cons c rest =>
      have hlast : EndsLine (c :: rest) y := by
        unfold EndsLine at h ⊢
        simpa [← List.append_assoc, List.getLast?_append] using h
      exact .cons unbroken ended whole (ih hlast)

end Calculator.Text
