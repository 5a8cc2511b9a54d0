/-
Any number of calls of `next` on one text: the cursor only moves forward, and in
the end it settles (`calls_settle`).

`Advances` says what one call passes of the text, by its answer: the gap and the
whole word of a token, the rest of the text before the end, or the gap before an
illegal character, which stays unread. `advances_next` is the step, for a cursor
anywhere in a text. Behind the end and before an illegal character a call leaves
the cursor where it is, so every later call is the same.
-/
import Calculator.Proofs.Token.Position

namespace Calculator

namespace Cursor

/-! ## One call -/

/-- What a call passes of the text, from where the cursor was to where it is, by its answer. -/
inductive Advances (text : List Char) (before after : Nat) : Except LexicalError Token → Prop where
  | token {t : Token} {gap word : List Char} (spaces : IsGap gap) (lexeme : Lexeme t word)
      (between : text.extract before after = gap ++ word) (moved : before < after)
      (longest : t.kind = .integer → ∀ c ∈ text[after]?, c.isDigit = false) :
      Advances text before after (.ok t)
  | endOfText (spaces : IsGap (text.extract before after)) (atEnd : after = text.length) :
      Advances text before after (.ok .endOfText)
  | illegal {e : LexicalError} (spaces : IsGap (text.extract before after))
      (position : e.position = after) (stands : text[after]? = some e.char)
      (bad : ¬IsLegal e.char) : Advances text before after (.error e)

theorem extract_append (front passed behind : List Char) :
    (front ++ (passed ++ behind)).extract front.length (front.length + passed.length) = passed := by
  simp [List.extract]

theorem getElem?_append_append (front passed behind : List Char) :
    (front ++ (passed ++ behind))[front.length + passed.length]? = behind.head? := by
  rw [← List.append_assoc, ← List.length_append, List.getElem?_append_right (Nat.le_refl _),
    Nat.sub_self, List.head?_eq_getElem?]

/-- A call of a cursor in a text passes what its answer says. -/
theorem advances_next {text : List Char} {c : Cursor} (h : IsIn text c) :
    Advances text c.position c.next.2.position c.next.1 := by
  obtain ⟨front, htext, hpos⟩ := h
  have hstep := step_next c
  generalize c.next.1 = answer, c.next.2 = after at hstep
  cases hstep with
  | @finish p gap spaces =>
    dsimp only at htext hpos
    subst htext hpos
    have hpassed := extract_append front gap []
    rw [List.append_nil] at hpassed
    exact .endOfText (by rwa [hpassed]) List.length_append.symm
  | @token p gap word tail t spaces lexeme longest =>
    dsimp only at htext hpos
    subst htext hpos
    have hpassed := extract_append front (gap ++ word) tail
    have hbehind := getElem?_append_append front (gap ++ word) tail
    rw [List.length_append, List.append_assoc, ← Nat.add_assoc] at hpassed hbehind
    have hword := List.length_pos_iff.2 lexeme.ne_nil
    refine .token spaces lexeme hpassed (by dsimp only; omega) fun hkind c hc => ?_
    dsimp only at hc
    rw [hbehind] at hc
    exact longest hkind c hc
  | @illegal p gap tail c spaces bad =>
    dsimp only at htext hpos
    subst htext hpos
    have hpassed := extract_append front gap (c :: tail)
    exact .illegal (by rwa [hpassed]) rfl (getElem?_append_append front gap (c :: tail)) bad

theorem position_le_next (c : Cursor) : c.position ≤ c.next.2.position := by
  have hstep := step_next c
  generalize c.next.1 = answer, c.next.2 = after at hstep
  cases hstep <;> simp only <;> omega

theorem IsIn.position_le {text : List Char} {c : Cursor} (h : IsIn text c) :
    c.position ≤ text.length := by
  obtain ⟨front, rfl, hpos⟩ := h
  rw [hpos, List.length_append]
  exact Nat.le_add_right ..

/-! ## Call after call -/

theorem next_after (c : Cursor) (n : Nat) : (c.after n).next = (c.answer n, c.after (n + 1)) := by
  rw [after_add]
  rfl

theorem position_after_mono (c : Cursor) {m n : Nat} (h : m ≤ n) :
    (c.after m).position ≤ (c.after n).position := by
  induction h with
  | refl => exact Nat.le_refl _
  | @step n _ ih =>
    have hnext := (c.after n).position_le_next
    rw [next_after] at hnext
    exact Nat.le_trans ih hnext

theorem settles_at_end {text : List Char} {c : Cursor} (hc : IsIn text c)
    (h : c.next.1 = .ok .endOfText) (n : Nat) :
    c.answer n = .ok .endOfText ∧ (c.after (n + 1)).position = text.length := by
  have hanswer := answer_of_endOfText h n
  refine ⟨hanswer, ?_⟩
  have hadvances := advances_next (hc.after n)
  rw [next_after, hanswer] at hadvances
  cases hadvances with
  | token _ lexeme => exact absurd rfl lexeme.ne_endOfText
  | endOfText _ atEnd => exact atEnd

theorem settles_at_illegal {c : Cursor} {e : LexicalError} (h : c.next.1 = .error e) (n : Nat) :
    c.answer n = .error e ∧ c.after (n + 1) = c.next.2 := by
  refine ⟨answer_of_error h n, ?_⟩
  induction n generalizing c with
  | zero => rfl
  | succ n ih =>
    have hagain := next_next_of_error (Prod.ext h rfl)
    rw [after_succ, ih (congrArg Prod.fst hagain), hagain]

end Cursor

open Cursor

/-- **Calls one after another move on through the text and then settle.** The cursor never moves back
and never leaves the text. The call after `n` others passes what its answer says: spaces and the
whole word of a token, and at least one character; spaces up to the end; or the spaces before an
illegal character. Once the end or an illegal character was answered, every later call answers it
again and leaves the cursor there. A text that is tokenized is answered with its tokens in order,
and an illegal character that is answered is the one that tokenizing reports. -/
theorem calls_settle (text : List Char) (n : Nat) :
    (∀ m ≤ n, ((start text).after m).position ≤ ((start text).after n).position) ∧
    ((start text).after n).position ≤ text.length ∧
    Advances text ((start text).after n).position ((start text).after (n + 1)).position
      ((start text).answer n) ∧
    ((start text).answer n = .ok .endOfText → ∀ m ≥ n, (start text).answer m = .ok .endOfText ∧
      ((start text).after (m + 1)).position = text.length) ∧
    (∀ e, (start text).answer n = .error e → tokenize text = .error e ∧
      ∀ m ≥ n, (start text).answer m = .error e ∧
        (start text).after (m + 1) = (start text).after (n + 1)) ∧
    ∀ ts, tokenize text = .ok ts → (start text).answer n = .ok (ts[n]?.getD .endOfText) := by
  have hin : IsIn text ((start text).after n) := (isIn_start text).after n
  refine ⟨fun m hm => position_after_mono _ hm, hin.position_le, ?_, fun hend m hm => ?_,
    fun e he => ⟨tokenize_of_answer_error he, fun m hm => ?_⟩,
    fun ts hts => answer_of_tokenize hts n⟩
  · have hadvances := advances_next hin
    rwa [next_after] at hadvances
  · obtain ⟨k, rfl⟩ := Nat.exists_eq_add_of_le hm
    rw [answer_add, Nat.add_assoc, after_add]
    exact settles_at_end hin hend k
  · obtain ⟨k, rfl⟩ := Nat.exists_eq_add_of_le hm
    rw [answer_add, Nat.add_assoc, after_add, after_add _ n 1]
    exact settles_at_illegal he k

end Calculator
