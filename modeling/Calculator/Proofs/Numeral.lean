/-
Runs of digits of any length: reading a run chunk by chunk gives its positional
value (`read_eq_value`), and the decimal digits of a natural number are a run of
that value (`value_toDigits`) without leading zeros (`exists_toDigits`). An
integer that is not too long is shown by its decimal text (`text_of_short`).
-/
import Calculator.Numeral

namespace Calculator.Numeral

theorem value_eq_ofDigitChars (run : List Char) : value run = Nat.ofDigitChars 10 run 0 := rfl

theorem value_append (run more : List Char) :
    value (run ++ more) = value run * Nat.pow 10 more.length + value more := by
  rw [value_eq_ofDigitChars, Nat.ofDigitChars_append, Nat.ofDigitChars_eq_ofDigitChars_zero,
    Nat.mul_comm]
  rfl

theorem value_zeros {zeros : List Char} (h : ∀ c ∈ zeros, c = '0') (run : List Char) :
    value (zeros ++ run) = value run := by
  induction zeros with
  | nil => rfl
  | cons c zeros ih =>
    obtain ⟨rfl, hzeros⟩ := List.forall_mem_cons.1 h
    have hzero : value ['0'] = 0 := rfl
    rw [List.cons_append, ← List.singleton_append, value_append, hzero, Nat.zero_mul, Nat.zero_add]
    exact ih hzeros

/-- A chunk is never refused by the conversion it is handed to. -/
theorem ofDigits?_chunk {run : List Char} (h : run ≠ []) :
    ofDigits? (run.take chunk) = some (value (run.take chunk)) := by
  have hlen : (run.take chunk).length ≤ longest := by
    simp only [List.length_take, chunk, longest]; omega
  have hne : run.take chunk ≠ [] := by
    simp only [ne_eq, List.take_eq_nil_iff, h, chunk]; simp
  exact if_pos ⟨hne, hlen⟩

/-- The digits read so far stay in front of the value of the rest. -/
theorem readAfter_eq (high : Nat) (run : List Char) :
    readAfter high run = high * Nat.pow 10 run.length + value run := by
  fun_induction readAfter high run with
  | case1 high => simp [value]
  | case2 high run h first ih =>
    have hsplit : value run =
        value first * Nat.pow 10 (run.drop chunk).length + value (run.drop chunk) := by
      rw [← value_append, List.take_append_drop]
    have hlen : run.length = first.length + (run.drop chunk).length := by
      rw [← List.length_append, List.take_append_drop]
    have hpow : Nat.pow 10 run.length =
        Nat.pow 10 first.length * Nat.pow 10 (run.drop chunk).length := by
      rw [hlen]; exact Nat.pow_add ..
    rw [ih, ofDigits?_chunk h, Option.getD_some, hsplit, hpow, Nat.add_mul, Nat.mul_assoc,
      Nat.add_assoc]

/-- Reading in chunks gives the positional value of the whole run. -/
theorem read_eq_value (run : List Char) : read run = value run := by
  simp [read, readAfter_eq]

theorem value_toDigits (n : Nat) : value (Nat.toDigits 10 n) = n := by
  rw [value_eq_ofDigitChars]; exact Nat.ofDigitChars_ten_toDigits

theorem lt_pow_of_length_repr_le {n k : Nat} (hk : 0 < k) (h : n.repr.length ≤ k) :
    n < Nat.pow 10 k :=
  (Nat.length_repr_le_iff hk).1 h

theorem length_repr_le_of_lt_pow {n k : Nat} (hk : 0 < k) (h : n < Nat.pow 10 k) :
    n.repr.length ≤ k :=
  (Nat.length_repr_le_iff hk).2 h

theorem text?_of_short {n : Int} (h : n.natAbs.repr.length ≤ longest) :
    text? n = some (decimal n) := by
  have hlt : n.natAbs < Nat.pow 10 longest := lt_pow_of_length_repr_le (by decide) h
  rw [text?, if_pos hlt]

theorem text?_eq_none_iff {n : Int} : text? n = none ↔ longest < n.natAbs.repr.length := by
  rw [← Nat.not_le]
  constructor
  · intro htext short
    rw [text?_of_short short] at htext
    cases htext
  · intro long
    rw [text?]
    exact if_neg fun hlt => long (length_repr_le_of_lt_pow (by decide) hlt)

theorem text_of_short {n : Int} (h : n.natAbs.repr.length ≤ longest) : text n = decimal n := by
  rw [text, text?_of_short h, Option.getD_some]

theorem exists_toDigits (n : Nat) :
    ∃ c run, Nat.toDigits 10 n = c :: run ∧ c.isDigit = true ∧ (c = '0' → n = 0) := by
  induction n using Nat.strongRecOn with
  | ind n ih =>
    by_cases hn : n < 10
    · have hone : ∀ m < 10, (Nat.digitChar m).isDigit = true ∧ (Nat.digitChar m = '0' → m = 0) := by
        decide
      exact ⟨_, [], Nat.toDigits_of_lt_base hn, hone n hn⟩
    · obtain ⟨c, run, heq, hc, hzero⟩ := ih (n / 10) (by omega)
      refine ⟨c, run ++ [(n % 10).digitChar], ?_, hc, fun h => ?_⟩
      · rw [Nat.toDigits_of_base_le (by decide) (by omega), heq, List.cons_append]
      · have := hzero h
        omega

theorem isDigit_of_mem_toDigits {n : Nat} : ∀ c ∈ Nat.toDigits 10 n, c.isDigit = true :=
  fun _ hc => Nat.isDigit_of_mem_toDigits (by decide) (by decide) hc

theorem toList_decimal_int (value : Int) :
    (decimal value).toList =
      if value < 0 then '-' :: Nat.toDigits 10 value.natAbs
      else Nat.toDigits 10 value.natAbs := by
  unfold decimal
  split <;> simp [Nat.toList_repr]

/-- The text begins with a digit, or with a minus sign and a digit. -/
inductive BeginsNumber : List Char → Prop where
  | digit {d : Char} (isDigit : d.isDigit = true) (rest : List Char) : BeginsNumber (d :: rest)
  | minus {d : Char} (isDigit : d.isDigit = true) (rest : List Char) :
      BeginsNumber ('-' :: d :: rest)

theorem beginsNumber_decimal (value : Int) : BeginsNumber (decimal value).toList := by
  obtain ⟨d, rest, heq, hd, -⟩ := exists_toDigits value.natAbs
  rw [toList_decimal_int, heq]
  split
  · exact .minus hd rest
  · exact .digit hd rest

end Calculator.Numeral
