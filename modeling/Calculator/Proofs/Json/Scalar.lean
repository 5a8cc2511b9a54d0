/-
Words and integers of JSON: a word is read as the value that it stands for
(`scalar_word`), and the decimal text of an integer as that integer
(`scalar_decimal`), if what follows does not continue it.

A number has no leading zeros, so the reader takes all of its digits for the
whole part.
-/
import Calculator.Json.Reader
import Calculator.Proofs.Numeral
import Calculator.Proofs.Token.Step

namespace Calculator.Json

variable {limits : Limits}

theorem scalar_malformed {text : List Char} (hword : wordAt? text = none)
    (hnumber : numberAt? text = none) : scalar limits text = .error (.malformed text.length) := by
  unfold scalar
  split
  · rename_i h
    rw [h]
    rfl
  · split
    · rename_i hw
      rw [hword] at hw
      cases hw
    · split
      · rename_i hn
        rw [hnumber] at hn
        cases hn
      · rfl

/-! ## Words -/

theorem wordAt?_of_mem {w : List Char × Json} (h : w ∈ words) (tail : List Char) :
    wordAt? (w.1 ++ tail) = some w := by
  simp only [words, List.mem_cons, List.not_mem_nil, or_false] at h
  obtain rfl | rfl | rfl | rfl | rfl | rfl := h <;> rfl

theorem scalar_word {w : List Char × Json} (h : w ∈ words) (tail : List Char) :
    ∃ h', scalar limits (w.1 ++ tail) = .ok ⟨w.2, tail, h'⟩ := by
  have hword := wordAt?_of_mem h tail
  have hpos := length_pos_of_wordAt? hword
  have hne : w.1 ++ tail ≠ [] := List.append_ne_nil_of_left_ne_nil (List.length_pos_iff.1 hpos) _
  refine ⟨by simp only [List.length_append]; omega, ?_⟩
  unfold scalar
  rw [dif_neg hne]
  split
  · rename_i hw
    obtain rfl := Option.some.inj (hword.symm.trans hw)
    simp [Reading.front]
  · rename_i hw
    rw [hword] at hw
    cases hw

/-! ## Numbers -/

/-- The character would continue a number. -/
def continuesNumber (c : Char) : Bool := c.isDigit || c = '.' || c = 'e' || c = 'E'

theorem wholeAt_toDigits (n : Nat) {tail : List Char} (htail : Stops Char.isDigit tail) :
    wholeAt (Nat.toDigits 10 n ++ tail) = Nat.toDigits 10 n := by
  unfold wholeAt
  split
  · rename_i heq
    obtain ⟨c, run, hdigits, -, hzero⟩ := Numeral.exists_toDigits n
    rw [hdigits, List.cons_append, List.cons.injEq] at heq
    rw [hzero heq.1]
    rfl
  · exact takeWhile_run Numeral.isDigit_of_mem_toDigits htail

theorem unsignedAt?_toDigits (negative : Bool) (n : Nat) {tail : List Char}
    (htail : Stops continuesNumber tail) :
    unsignedAt? negative (Nat.toDigits 10 n ++ tail) =
      some ⟨negative, Nat.toDigits 10 n, [], []⟩ := by
  have hwhole : wholeAt (Nat.toDigits 10 n ++ tail) = Nat.toDigits 10 n := by
    refine wholeAt_toDigits n fun c hc => ?_
    have := htail c hc
    simp only [continuesNumber, Bool.or_eq_false_iff] at this
    exact this.1.1.1
  have hfraction : fractionAt tail = [] := by
    unfold fractionAt
    split
    · exact absurd (htail '.' rfl) (by decide)
    · rfl
  have hexponent : exponentAt tail = [] := by
    unfold exponentAt
    split
    · rename_i mark rest
      have := htail mark rfl
      simp only [continuesNumber, Bool.or_eq_false_iff, decide_eq_false_iff_not] at this
      simp [this]
    · rfl
  simp [unsignedAt?, hwhole, hfraction, hexponent]


/-- The parts of an integer. -/
def NumberParts.ofInt (value : Int) : NumberParts :=
  ⟨value < 0, Nat.toDigits 10 value.natAbs, [], []⟩

namespace NumberParts

theorem isInteger_ofInt (value : Int) : (ofInt value).isInteger = true := rfl

theorem toJson_ofInt (value : Int) : (ofInt value).toJson = integer value := by
  rw [toJson, if_pos (isInteger_ofInt value), toInt]
  simp only [ofInt, Numeral.value_toDigits, decide_eq_true_eq]
  congr 1
  split <;> omega

end NumberParts

theorem length_ofInt (value : Int) :
    (NumberParts.ofInt value).length = (Numeral.decimal value).toList.length := by
  rw [Numeral.toList_decimal_int]
  split <;> rename_i h <;> simp [NumberParts.length, NumberParts.ofInt, h, Nat.add_comm]

theorem numberAt?_decimal (value : Int) {tail : List Char} (htail : Stops continuesNumber tail) :
    numberAt? ((Numeral.decimal value).toList ++ tail) = some (.ofInt value) := by
  rw [Numeral.toList_decimal_int]
  split
  · rename_i h
    have := unsignedAt?_toDigits true value.natAbs htail
    simpa [numberAt?, NumberParts.ofInt, h] using this
  · rename_i h
    have := unsignedAt?_toDigits false value.natAbs htail
    unfold numberAt?
    split
    · rename_i heq
      obtain ⟨d, run, hdigits, hd, -⟩ := Numeral.exists_toDigits value.natAbs
      rw [hdigits, List.cons_append, List.cons.injEq] at heq
      rw [heq.1] at hd
      exact absurd hd (by decide)
    · simpa [NumberParts.ofInt, h] using this

theorem wordAt?_of_beginsNumber {text : List Char} (h : Numeral.BeginsNumber text)
    (tail : List Char) : wordAt? (text ++ tail) = none := by
  have other : ∀ d : Char, d.isDigit = true → ∀ c, c.isDigit = false → c ≠ d := by
    rintro d hd c hc rfl
    simp [hc] at hd
  cases h with
  | digit isDigit rest =>
    have := other _ isDigit
    simp [wordAt?, words, List.isPrefixOf, this]
  | minus isDigit rest =>
    have := other _ isDigit
    simp [wordAt?, words, List.isPrefixOf, this]

theorem scalar_of_numberAt? {text : List Char} {n : NumberParts}
    (hword : wordAt? text = none) (hnumber : numberAt? text = some n)
    (hadmits : limits.admitsNumber n = true) :
    ∃ h, scalar limits text = .ok ⟨n.toJson, text.drop n.length, h⟩ := by
  have hne : text ≠ [] := by
    rintro rfl
    cases hnumber
  unfold scalar
  rw [dif_neg hne]
  split
  · rename_i hw
    rw [hword] at hw
    cases hw
  · split
    · rename_i hn
      obtain rfl := Option.some.inj (hnumber.symm.trans hn)
      rw [if_pos hadmits]
      exact ⟨(Reading.front n.toJson n.length text (length_pos_of_numberAt? hn) hne).shorter, rfl⟩
    · rename_i hn
      rw [hnumber] at hn
      cases hn

/-- **An integer is read back from its decimal text,** unless a limit refuses it. -/
theorem scalar_decimal {value : Int}
    (short : limits.digits.all (value.natAbs.repr.length ≤ ·) = true) {tail : List Char}
    (htail : Stops continuesNumber tail) :
    ∃ h, scalar limits ((Numeral.decimal value).toList ++ tail) = .ok ⟨integer value, tail, h⟩ := by
  have hadmits : limits.admitsNumber (.ofInt value) = true := by
    rw [← String.length_toList, Nat.toList_repr] at short
    rw [Limits.admitsNumber, NumberParts.isInteger_ofInt]
    exact short
  have hword := wordAt?_of_beginsNumber (Numeral.beginsNumber_decimal value) tail
  have hscalar := scalar_of_numberAt? hword (numberAt?_decimal value htail) hadmits
  rwa [NumberParts.toJson_ofInt, length_ofInt, List.drop_left] at hscalar

end Calculator.Json
