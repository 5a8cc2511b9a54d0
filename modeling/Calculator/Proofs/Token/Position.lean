/-
Where tokens stand in a text, and what the calls on a cursor depend on.

A call of `next` begins behind the spaces at its cursor, so cursors that are the
same there have the same calls to come (`next_skipSpaces`, `skipSpaces_after`). A
cursor that counts its position from elsewhere gives the same answers, with the
position of an error counted likewise (`next_shift`).

`Token.Spans` says from where to where a token stands in a text, and
`spans_next` that a call reads its token from behind the spaces to the cursor
that it leaves. Call after call, the answers are the tokens of the text and then
the end for ever, or the first illegal character for ever
(`answer_of_tokenize`, `tokenize_of_answer_error`).
-/
import Calculator.Proofs.Token.Rendering

namespace Calculator

/-- The error where positions are counted from so many characters before. -/
def LexicalError.shift (e : LexicalError) (n : Nat) : LexicalError := ⟨e.char, e.position + n⟩

/-- The token stands in the text from the one position to the other; the end stands behind it. -/
inductive Token.Spans (text : List Char) : Token → Nat → Nat → Prop where
  | word {t : Token} {before word behind : List Char} (lexeme : Lexeme t word)
      (whole : text = before ++ (word ++ behind)) :
      Spans text t before.length (before.length + word.length)
  | endOfText : Spans text .endOfText text.length text.length

theorem Lexeme.stops {t : Token} {word : List Char} (h : Lexeme t word) (tail : List Char) :
    Stops (· = ' ') (word ++ tail) := by
  obtain ⟨-, hne, hrun⟩ | ⟨c, rfl, hc⟩ := h.run_or_symbol
  · obtain ⟨c, word, rfl⟩ := List.exists_cons_of_ne_nil hne
    have hd : c.isDigit = true := hrun c List.mem_cons_self
    rintro _ ⟨⟩
    exact decide_eq_false fun hs => by rw [hs] at hd; cases hd
  · rintro _ ⟨⟩
    exact decide_eq_false (isDigit_of_ofSymbol? hc).2

namespace Cursor

/-! ## Spaces -/

theorem skipSpaces_skipSpaces (c : Cursor) : c.skipSpaces.skipSpaces = c.skipSpaces := by
  obtain ⟨p, text⟩ := c
  obtain ⟨gap, tail, rfl, hgap, hstop⟩ := exists_run (· = ' ') text
  rw [skipSpaces_eq (isGap_iff.2 hgap) hstop]
  exact skipSpaces_eq .nil hstop

theorem next_skipSpaces (c : Cursor) : c.skipSpaces.next = c.next := by
  rw [next, next, skipSpaces_skipSpaces]

theorem next_eq_of_skipSpaces_eq {c d : Cursor} (h : c.skipSpaces = d.skipSpaces) :
    c.next = d.next := by
  rw [← next_skipSpaces, h, next_skipSpaces]

theorem next_of_error {c d : Cursor} {e : LexicalError} (h : c.next = (.error e, d)) :
    d = c.skipSpaces ∧ d.position = e.position := by
  cases step_iff.2 h with
  | @illegal p gap tail ch spaces bad =>
    have hstop : Stops (· = ' ') (ch :: tail) := by
      rintro _ ⟨⟩
      exact decide_eq_false fun hs => bad (.inl hs)
    rw [skipSpaces_eq spaces hstop]
    exact ⟨rfl, rfl⟩

theorem next_next_of_error {c d : Cursor} {e : LexicalError} (h : c.next = (.error e, d)) :
    d.next = (.error e, d) := by
  obtain ⟨rfl, -⟩ := next_of_error h
  rw [next_skipSpaces, h]

/-! ## Positions counted from elsewhere -/

/-- The cursor where positions are counted from so many characters before. -/
def shift (c : Cursor) (n : Nat) : Cursor := ⟨c.position + n, c.rest⟩

theorem forward_shift (c : Cursor) (m n : Nat) : (c.shift n).forward m = (c.forward m).shift n := by
  simp only [forward, shift, Nat.add_right_comm]

theorem skipSpaces_shift (c : Cursor) (n : Nat) : (c.shift n).skipSpaces = c.skipSpaces.shift n :=
  forward_shift ..

/-- A call gives the same answer wherever positions are counted from, and an error counts its
position likewise. -/
theorem next_shift (c : Cursor) (n : Nat) :
    (c.shift n).next = (c.next.1.mapError (·.shift n), c.next.2.shift n) := by
  have hrest : (c.skipSpaces.shift n).rest = c.skipSpaces.rest := rfl
  unfold next
  rw [skipSpaces_shift]
  dsimp only
  rw [hrest]
  split
  · rfl
  · split
    · rw [forward_shift]; rfl
    · split
      · rw [forward_shift]; rfl
      · rfl

/-! ## Calls to come -/

theorem after_add (c : Cursor) (m n : Nat) : c.after (m + n) = (c.after m).after n := by
  induction m generalizing c with
  | zero => rw [Nat.zero_add]; rfl
  | succ m ih => rw [Nat.succ_add, after_succ, after_succ, ih]

theorem answer_add (c : Cursor) (m n : Nat) : c.answer (m + n) = (c.after m).answer n := by
  rw [answer, answer, after_add]

theorem after_shift (c : Cursor) (m n : Nat) : (c.shift n).after m = (c.after m).shift n := by
  induction m generalizing c with
  | zero => rfl
  | succ m ih => rw [after_succ, after_succ, next_shift, ih]

/-- Cursors that differ in spaces only have the same calls to come. -/
theorem skipSpaces_after {c d : Cursor} (h : c.skipSpaces = d.skipSpaces) (n : Nat) :
    (c.after n).skipSpaces = (d.after n).skipSpaces := by
  cases n with
  | zero => exact h
  | succ n => rw [after_succ, after_succ, next_eq_of_skipSpaces_eq h]

/-- Where the token of the call after so many others begins. -/
def offset (c : Cursor) (n : Nat) : Nat := (c.after n).skipSpaces.position

theorem answer_of_endOfText {c : Cursor} (h : c.next.1 = .ok .endOfText) (n : Nat) :
    c.answer n = .ok .endOfText := by
  induction n generalizing c with
  | zero => exact h
  | succ n ih => exact ih (next_next_of_endOfText h)

theorem answer_of_error {c : Cursor} {e : LexicalError} (h : c.next.1 = .error e) (n : Nat) :
    c.answer n = .error e := by
  induction n generalizing c with
  | zero => exact h
  | succ n ih => exact ih (congrArg Prod.fst (next_next_of_error (Prod.ext h rfl)))

/-! ## Cursors in a text -/

/-- The cursor stands in the text. -/
def IsIn (text : List Char) (c : Cursor) : Prop :=
  ∃ passed, text = passed ++ c.rest ∧ c.position = passed.length

theorem isIn_start (text : List Char) : IsIn text (start text) := ⟨[], rfl, rfl⟩

namespace IsIn

variable {text : List Char} {c : Cursor}

theorem rest_eq (h : IsIn text c) : c.rest = text.drop c.position := by
  obtain ⟨passed, rfl, hpos⟩ := h
  rw [hpos, List.drop_left]

theorem forward (h : IsIn text c) {n : Nat} (hn : n ≤ c.rest.length) :
    IsIn text (c.forward n) := by
  obtain ⟨passed, rfl, hpos⟩ := h
  refine ⟨passed ++ c.rest.take n, ?_, ?_⟩
  · rw [Cursor.forward, List.append_assoc, List.take_append_drop]
  · rw [Cursor.forward, List.length_append, List.length_take, Nat.min_eq_left hn, hpos]

theorem skipSpaces (h : IsIn text c) : IsIn text c.skipSpaces :=
  h.forward (List.takeWhile_prefix _).length_le

theorem next (h : IsIn text c) : IsIn text c.next.2 := by
  have hs := h.skipSpaces
  unfold Cursor.next
  dsimp only
  split
  · exact hs
  next first more hrest =>
    split
    · exact hs.forward (List.takeWhile_prefix _).length_le
    · split
      · exact hs.forward (by rw [hrest]; exact Nat.succ_pos _)
      · exact hs

theorem after (h : IsIn text c) (n : Nat) : IsIn text (c.after n) := by
  induction n generalizing c with
  | zero => exact h
  | succ n ih => exact ih h.next

end IsIn

/-- A cursor in a text is the start of the rest of it, counted from the start of the text. -/
theorem IsIn.eq_shift {text : List Char} {c : Cursor} (h : IsIn text c) :
    c = (start (text.drop c.position)).shift c.position := by
  rw [← h.rest_eq, start, shift, Nat.zero_add]

/-- A call reads its token from behind the spaces to the cursor that it leaves. -/
theorem spans_next {text : List Char} {c d : Cursor} {t : Token} (hc : IsIn text c)
    (h : c.next = (.ok t, d)) : t.Spans text c.skipSpaces.position d.position := by
  obtain ⟨passed, rfl, hpos⟩ := hc
  cases step_iff.2 h with
  | @finish p gap spaces =>
    have hskip : skipSpaces ⟨p, gap ++ []⟩ = ⟨p + gap.length, []⟩ := skipSpaces_eq spaces nofun
    have hend : p + gap.length = (passed ++ gap).length := by
      rw [List.length_append, ← hpos]
    rw [List.append_nil] at hskip
    rw [hskip]
    dsimp only
    rw [hend]
    exact .endOfText
  | @token p gap word tail t spaces lexeme longest =>
    have hbegin : p + gap.length = (passed ++ gap).length := by
      rw [List.length_append, ← hpos]
    rw [skipSpaces_eq spaces (lexeme.stops tail)]
    dsimp only
    rw [hbegin]
    exact .word lexeme (by rw [List.append_assoc])

end Cursor

open Cursor

/-! ## The stream of a text -/

/-- The answers on a text are its tokens in order, and then the end for ever. -/
theorem answer_of_tokenize {text : List Char} {ts : List Token} (h : tokenize text = .ok ts)
    (n : Nat) : (start text).answer n = .ok (ts[n]?.getD .endOfText) := by
  obtain ⟨us, d, hreads, ⟨hd, htok⟩ | ⟨e, -, htok⟩⟩ := reads_tokenize text
  · cases h.symm.trans htok
    by_cases hn : n < us.length
    · rw [hreads.answer_eq hn, List.getElem?_append_left hn, List.getElem?_eq_getElem hn]
      rfl
    · obtain ⟨m, rfl⟩ := Nat.exists_eq_add_of_le (Nat.le_of_not_lt hn)
      rw [answer_add, hreads.after_eq, answer_of_endOfText hd,
        List.getElem?_append_right (Nat.le_add_right ..), Nat.add_sub_cancel_left]
      cases m <;> rfl
  · cases h.symm.trans htok

theorem tokenize_of_answer_error {text : List Char} {n : Nat} {e : LexicalError}
    (h : (start text).answer n = .error e) : tokenize text = .error e := by
  obtain ⟨us, d, hreads, ⟨-, htok⟩ | ⟨e', hd, htok⟩⟩ := reads_tokenize text
  · cases h.symm.trans (answer_of_tokenize htok n)
  · by_cases hn : n < us.length
    · cases h.symm.trans (hreads.answer_eq hn)
    · obtain ⟨m, rfl⟩ := Nat.exists_eq_add_of_le (Nat.le_of_not_lt hn)
      rw [answer_add, hreads.after_eq, answer_of_error hd] at h
      cases h
      exact htok

end Calculator
