/-
Reading a text again with another continuation: what was read up to a cursor is
read again from the characters before that cursor, whatever follows them
(`reads_take`), and so is the error that reading ended on (`reads_take_error`).

Only the token that ends at the cut can change. If it is an integer, digits that
follow make it a longer one; every token before it is delimited by a character
that is still there.
-/
import Calculator.Proofs.Token.Rendering

namespace Calculator

/-- No rule of the parser tells the tokens apart: they are the same but for the value of an
integer. -/
inductive Token.Alike : Token → Token → Prop where
  | same (t : Token) : Alike t t
  | integers (m n : Nat) : Alike (.integer m) (.integer n)

theorem Stops.of_append {p : Char → Bool} {front tail tail' : List Char} (hne : front ≠ [])
    (h : Stops p (front ++ tail)) : Stops p (front ++ tail') := by
  obtain ⟨c, front, rfl⟩ := List.exists_cons_of_ne_nil hne
  exact h

namespace Cursor

/-! ## Calls -/

/-- Tokens are read again in front of any text that does not lengthen the last of them. -/
theorem Reads.continued {c d : Cursor} {ts : List Token} (h : Reads c ts d) :
    ∃ passed, c.rest = passed ++ d.rest ∧ d.position = c.position + passed.length ∧
      ∀ more, (Stops Char.isDigit d.rest → Stops Char.isDigit more) →
        Reads ⟨c.position, passed ++ more⟩ ts ⟨d.position, more⟩ := by
  induction h with
  | nil => exact ⟨[], rfl, rfl, fun _ _ => .nil⟩
  | @cons c d e t ts next more _ ih =>
    obtain ⟨passed, hrest, hpos, hreads⟩ := ih
    cases step_iff.2 next with
    | finish _ => exact absurd rfl more
    | @token p gap word tail t spaces lexeme longest =>
      dsimp only at hrest hpos hreads
      subst hrest
      refine ⟨gap ++ (word ++ passed), by simp, by simp [hpos]; omega, fun more hstops => ?_⟩
      -- Only behind the last token does the text change at once.
      have hlongest : t.kind = .integer → Stops Char.isDigit (passed ++ more) := by
        intro hkind
        cases passed with
        | nil => exact hstops (longest hkind)
        | cons c passed => exact (longest hkind).of_append (by simp)
      have hstep : Step ⟨p, gap ++ (word ++ (passed ++ more))⟩ _ _ :=
        .token spaces lexeme hlongest
      rw [List.append_assoc, List.append_assoc]
      exact .cons hstep.next_eq lexeme.ne_endOfText (hreads more hstops)

/-- A token that is not the end is read again, or a longer integer in the place of an integer. -/
theorem next_continued {c d : Cursor} {t : Token} (h : d.next = (.ok t, c)) (ht : t ≠ .endOfText) :
    ∃ taken, taken ≠ [] ∧ d.rest = taken ++ c.rest ∧ c.position = d.position + taken.length ∧
      ∀ more, ∃ t', (next ⟨d.position, taken ++ more⟩).1 = .ok t' ∧ t.Alike t' := by
  cases step_iff.2 h with
  | finish _ => exact absurd rfl ht
  | @token p gap word tail t spaces lexeme longest =>
    refine ⟨gap ++ word, by simp [lexeme.ne_nil], by simp, by simp; omega, fun more => ?_⟩
    rw [List.append_assoc]
    by_cases hkind : t.kind = .integer
    · -- Digits that follow are taken with those that were read.
      obtain ⟨run, tail', rfl, hrun, htail⟩ := exists_run Char.isDigit more
      cases lexeme with
      | integer nonempty digits =>
        have hdigits : ∀ c ∈ word ++ run, c.isDigit = true := fun c hc =>
          (List.mem_append.1 hc).elim (digits c) (hrun c)
        have hlonger : Lexeme _ (word ++ run) := .integer (by simp [nonempty]) hdigits
        have hstep : Step ⟨p, gap ++ (word ++ run ++ tail')⟩ _ _ :=
          .token spaces hlonger fun _ => htail
        rw [List.append_assoc] at hstep
        exact ⟨_, by rw [hstep.next_eq], .integers _ _⟩
      | _ => cases hkind
    · have hstep : Step ⟨p, gap ++ (word ++ more)⟩ _ _ := .token spaces lexeme (absurd · hkind)
      exact ⟨t, by rw [hstep.next_eq], .same t⟩

theorem next_error_continued {d : Cursor} {e : LexicalError} (h : d.next.1 = .error e) :
    ∃ gap tail, d.rest = gap ++ e.char :: tail ∧ e.position = d.position + gap.length ∧
      ∀ more, (next ⟨d.position, gap ++ e.char :: more⟩).1 = .error e := by
  have hstep := step_next d
  rw [h] at hstep
  generalize d.next.2 = after at hstep
  cases hstep with
  | @illegal p gap tail c spaces bad =>
    exact ⟨gap, tail, rfl, rfl, fun more => by rw [(Step.illegal spaces bad).next_eq]⟩

/-! ## Texts -/

/-- What was read up to a cursor is read again from the characters before it, and the last token
or an alike one behind it. -/
theorem reads_take {text : List Char} {ts : List Token} {c d : Cursor} {t : Token}
    (h : Reads (start text) ts d) (hd : d.next = (.ok t, c)) (ht : t ≠ .endOfText)
    (more : List Char) :
    ∃ d' t', Reads (start (text.take c.position ++ more)) ts d' ∧ d'.next.1 = .ok t' ∧
      t.Alike t' := by
  obtain ⟨passed, hrest, hpos, hreads⟩ := h.continued
  obtain ⟨taken, hne, hrest', hpos', hnext⟩ := next_continued hd ht
  obtain ⟨t', hnext, halike⟩ := hnext more
  have htext : text = passed ++ taken ++ c.rest := by simpa [start, hrest'] using hrest
  have hlen : c.position = (passed ++ taken).length := by simp [hpos', hpos, start]
  have htake : text.take c.position = passed ++ taken := by
    rw [hlen, htext]
    exact List.take_left
  rw [hrest'] at hreads
  rw [htake, List.append_assoc]
  exact ⟨_, t', hreads _ (Stops.of_append hne), hnext, halike⟩

theorem reads_take_error {text : List Char} {ts : List Token} {d : Cursor} {e : LexicalError}
    (h : Reads (start text) ts d) (hd : d.next.1 = .error e) (more : List Char) :
    ∃ d', Reads (start (text.take (e.position + 1) ++ more)) ts d' ∧ d'.next.1 = .error e := by
  obtain ⟨passed, hrest, hpos, hreads⟩ := h.continued
  obtain ⟨gap, tail, hrest', hpos', hnext⟩ := next_error_continued hd
  have htext : text = passed ++ (gap ++ [e.char]) ++ tail := by
    simpa [start, hrest'] using hrest
  have hlen : e.position + 1 = (passed ++ (gap ++ [e.char])).length := by
    simp [hpos', hpos, start]
    omega
  have htake : text.take (e.position + 1) = passed ++ (gap ++ [e.char]) := by
    rw [hlen, htext]
    exact List.take_left
  have hstops : Stops Char.isDigit (gap ++ e.char :: tail) →
      Stops Char.isDigit (gap ++ e.char :: more) := by
    have hne : gap ++ [e.char] ≠ [] := by simp
    rw [List.append_cons gap _ tail, List.append_cons gap _ more]
    exact Stops.of_append hne
  rw [hrest'] at hreads
  rw [htake, List.append_assoc, ← List.append_cons]
  exact ⟨_, hreads _ hstops, hnext more⟩

end Cursor

end Calculator
