/-
What a number is displayed as tells whether it is finite: the text of a finite
number begins with a digit, or with a minus sign and a digit
(`beginsNumber_display`), and no other number is displayed so. Where a number is
shown as a real, a point or an exponent stands behind these digits
(`breaksOff_magnitudeText`).
-/
import Calculator.Binary64.Display
import Calculator.Proofs.Numeral

namespace Calculator

open Numeral (BeginsNumber exists_toDigits)

/-! ## Layout -/

namespace Layout

theorem exists_toList_write (layout : Layout) (d : Decimal) :
    ∃ c rest, (layout.write d).toList = c :: rest ∧ c.isDigit = true := by
  obtain ⟨c, run, hdigits, hc, -⟩ := exists_toDigits d.digits
  have hpoint : ∀ n, ∃ rest, (point (c :: run) (n + 1)).toList = c :: rest := fun n =>
    ⟨run.take n ++ '.' :: run.drop n, by simp [point]⟩
  unfold write
  simp only [hdigits]
  split
  · split
    · exact ⟨c, _, by simp; rfl, hc⟩
    · obtain ⟨rest, hrest⟩ := hpoint 0
      exact ⟨c, _, by rw [String.toList_append, hrest]; rfl, hc⟩
  · split
    · exact ⟨c, _, by simp; rfl, hc⟩
    · split
      · obtain ⟨rest, hrest⟩ := hpoint _
        exact ⟨c, rest, hrest, hc⟩
      · exact ⟨'0', _, by simp; rfl, rfl⟩

end Layout

namespace Binary64

/-! ## Numbers -/

theorem exists_toList_magnitudeText (rank : Nat) :
    ∃ c rest, (magnitudeText rank).toList = c :: rest ∧ c.isDigit = true := by
  unfold magnitudeText
  split
  · exact ⟨'0', _, by simp; rfl, rfl⟩
  · exact layout.exists_toList_write _

/-- **A finite number is displayed as a number.** -/
theorem beginsNumber_display {x : Binary64} (h : x.isFinite = true) :
    BeginsNumber x.display.toList := by
  unfold display
  split
  · exact Numeral.beginsNumber_decimal _
  · cases x with
    | nan => cases h
    | infinity negative => cases h
    | finite negative rank =>
      obtain ⟨c, rest, heq, hc⟩ := exists_toList_magnitudeText rank
      rw [text, String.toList_append, heq]
      cases negative with
      | false => exact .digit hc rest
      | true => exact .minus hc rest

/-- The texts of the numbers that are not finite. -/
def notFinite : List String := ["inf", "-inf", "nan"]

/-- **The display tells which numbers are not finite.** -/
theorem isFinite_eq_false_iff (x : Binary64) : x.isFinite = false ↔ x.display ∈ notFinite := by
  constructor
  · intro h
    cases x with
    | nan => decide
    | infinity negative => cases negative <;> decide
    | finite negative rank => cases h
  · intro h
    rw [← Bool.not_eq_true]
    intro hfinite
    have hbegins := beginsNumber_display hfinite
    generalize x.display = shown at h hbegins
    simp only [notFinite, List.mem_cons, List.not_mem_nil, or_false] at h
    obtain rfl | rfl | rfl := h
    · cases hbegins with
      | digit isDigit => cases isDigit
    · cases hbegins with
      | digit isDigit => cases isDigit
      | minus isDigit => cases isDigit
    · cases hbegins with
      | digit isDigit => cases isDigit

end Binary64

/-! ## Numbers that are no integers -/

/-- The text is a run of digits that a point or an exponent breaks off. -/
inductive BreaksOff : List Char → Prop where
  | mark {run : List Char} {c : Char} (digits : ∀ d ∈ run, d.isDigit = true)
      (mark : c = '.' ∨ c = 'e') (rest : List Char) : BreaksOff (run ++ c :: rest)

namespace Binary64

theorem isDigit_zero : ∀ c ∈ ['0'], c.isDigit = true := by simp

theorem isDigit_of_mem_zeros {n : Nat} : ∀ c ∈ (Layout.zeros n).toList, c.isDigit = true := by
  simp [Layout.zeros, List.mem_replicate]

theorem exists_toList_exponentText (exponent : Int) :
    ∃ rest, (layout.exponentText exponent).toList = 'e' :: rest :=
  ⟨_, by simp [Layout.exponentText, layout]; rfl⟩

theorem breaksOff_write (d : Decimal) : BreaksOff (layout.write d).toList := by
  have hdigits : ∀ c ∈ Nat.toDigits 10 d.digits, c.isDigit = true :=
    Numeral.isDigit_of_mem_toDigits
  have hpoint : ∀ n more,
      BreaksOff ((Layout.point (Nat.toDigits 10 d.digits) n).toList ++ more) := by
    intro n more
    have hfront : ∀ c ∈ (Nat.toDigits 10 d.digits).take n, c.isDigit = true := fun c hc =>
      hdigits c (List.mem_of_mem_take hc)
    simpa [Layout.point] using BreaksOff.mark hfront (.inl rfl) _
  unfold Layout.write
  dsimp only
  split
  · obtain ⟨rest, hrest⟩ :=
      exists_toList_exponentText (d.exponent + (Nat.toDigits 10 d.digits).length - 1)
    rw [String.toList_append, hrest]
    split
    · rw [String.toList_ofList]
      exact .mark hdigits (.inr rfl) rest
    · exact hpoint 1 _
  · split
    · have hrun : ∀ c ∈ Nat.toDigits 10 d.digits ++ (Layout.zeros d.exponent.toNat).toList,
          c.isDigit = true := fun c hc =>
        (List.mem_append.1 hc).elim (hdigits c) (isDigit_of_mem_zeros c)
      simpa [layout] using BreaksOff.mark hrun (.inl rfl) ['0']
    · split
      · simpa using hpoint _ []
      · simpa using BreaksOff.mark isDigit_zero (.inl rfl) _

/-- The text of a magnitude is that of a real, also where the magnitude is whole. -/
theorem breaksOff_magnitudeText (rank : Nat) : BreaksOff (magnitudeText rank).toList := by
  unfold magnitudeText
  split
  · exact .mark isDigit_zero (.inl rfl) ['0']
  · exact breaksOff_write _

end Binary64

end Calculator
