/-
What one call of `next` does, as a relation: it skips a gap, and then stops at
the end of the text, takes the longest word that stands there, or stays on a
character that begins none.

`step_next` says that every call does one of these, and `Step.next_eq` that
whatever the relation allows is what the call does.
-/
import Calculator.Token.Cursor
import Calculator.Token.Rendering
import Calculator.Proofs.Numeral

namespace Calculator

/-- The text does not go on with a character of the class. -/
def Stops (p : Char → Bool) (text : List Char) : Prop := ∀ c ∈ text.head?, p c = false

/-- Every text is a run of characters of a class and a text that does not go on with it. -/
theorem exists_run (p : Char → Bool) (text : List Char) :
    ∃ run tail, text = run ++ tail ∧ (∀ c ∈ run, p c = true) ∧ Stops p tail := by
  induction text with
  | nil => exact ⟨[], [], rfl, nofun, nofun⟩
  | cons c text ih =>
    by_cases hc : p c = true
    · obtain ⟨run, tail, rfl, hrun, htail⟩ := ih
      exact ⟨c :: run, tail, rfl, List.forall_mem_cons.2 ⟨hc, hrun⟩, htail⟩
    · exact ⟨[], c :: text, rfl, nofun, by simpa [Stops] using hc⟩

theorem takeWhile_run {p : Char → Bool} {run tail : List Char} (hrun : ∀ c ∈ run, p c = true)
    (htail : Stops p tail) : (run ++ tail).takeWhile p = run := by
  rw [List.takeWhile_append_of_pos hrun]
  cases tail with
  | nil => simp
  | cons c tail =>
    have hc : p c = false := htail c rfl
    simp [hc]

theorem stops_cons {p : Char → Bool} {c : Char} (hc : p c = false) (tail : List Char) :
    Stops p (c :: tail) := by
  intro d hd
  obtain rfl : c = d := by simpa using hd
  exact hc

theorem Stops.prepend {p : Char → Bool} {front tail : List Char} (htail : Stops p tail)
    (hfront : ∀ c ∈ front, p c = false) : Stops p (front ++ tail) := by
  cases front with
  | nil => exact htail
  | cons c front => exact stops_cons (hfront c List.mem_cons_self) _

theorem isGap_iff {gap : List Char} : IsGap gap ↔ ∀ c ∈ gap, decide (c = ' ') = true := by
  simp [IsGap]

/-! ## Words -/

theorem isDigit_of_ofSymbol? {c : Char} {t : Token} (h : Token.ofSymbol? c = some t) :
    c.isDigit = false ∧ c ≠ ' ' := by
  unfold Token.ofSymbol? at h
  repeat' split at h
  all_goals first | (subst_vars; decide) | cases h

theorem lexeme_of_ofSymbol? {c : Char} {t : Token} (h : Token.ofSymbol? c = some t) :
    Lexeme t [c] ∧ t.kind ≠ .integer := by
  unfold Token.ofSymbol? at h
  repeat' split at h
  case isFalse.isFalse.isFalse.isFalse.isFalse.isFalse.isFalse => cases h
  all_goals
    cases h
    subst_vars
  · exact ⟨.additive .plus, nofun⟩
  · exact ⟨.additive .minus, nofun⟩
  · exact ⟨.multiplicative .times, nofun⟩
  · exact ⟨.multiplicative .divide, nofun⟩
  · exact ⟨.power, nofun⟩
  · exact ⟨.paren .opening, nofun⟩
  · exact ⟨.paren .closing, nofun⟩

/-- A word is a run of digits, or the one character of its token. -/
theorem Lexeme.run_or_symbol {t : Token} {word : List Char} (h : Lexeme t word) :
    (t = .integer (Numeral.value word) ∧ word ≠ [] ∧ ∀ c ∈ word, c.isDigit = true) ∨
      (∃ c, word = [c] ∧ Token.ofSymbol? c = some t) := by
  cases h with
  | integer nonempty digits => exact .inl ⟨rfl, nonempty, digits⟩
  | additive sign => cases sign <;> exact .inr ⟨_, rfl, rfl⟩
  | multiplicative scaling => cases scaling <;> exact .inr ⟨_, rfl, rfl⟩
  | power => exact .inr ⟨_, rfl, rfl⟩
  | paren side => cases side <;> exact .inr ⟨_, rfl, rfl⟩

theorem Lexeme.ne_nil {t : Token} {word : List Char} (h : Lexeme t word) : word ≠ [] := by
  obtain ⟨-, hne, -⟩ | ⟨c, rfl, -⟩ := h.run_or_symbol
  · exact hne
  · exact List.cons_ne_nil _ _

theorem isLegal_iff {c : Char} :
    IsLegal c ↔ c = ' ' ∨ c.isDigit = true ∨ ∃ t, Token.ofSymbol? c = some t := by
  have hsymbol : c ∈ ['+', '-', '*', '/', '^', '(', ')'] ↔ ∃ t, Token.ofSymbol? c = some t := by
    unfold Token.ofSymbol?
    constructor
    · intro h
      simp only [List.mem_cons, List.not_mem_nil, or_false] at h
      rcases h with rfl | rfl | rfl | rfl | rfl | rfl | rfl <;> exact ⟨_, rfl⟩
    · rintro ⟨t, h⟩
      repeat' split at h
      all_goals first | cases h; done | simp_all
  rw [IsLegal, hsymbol]

/-! ## One call -/

namespace Cursor

/-- One call of `next`: the cursor before it, its answer, and the cursor after it. -/
inductive Step : Cursor → Except LexicalError Token → Cursor → Prop where
  | finish {p : Nat} {gap : List Char} (spaces : IsGap gap) :
      Step ⟨p, gap⟩ (.ok .endOfText) ⟨p + gap.length, []⟩
  | token {p : Nat} {gap word tail : List Char} {t : Token} (spaces : IsGap gap)
      (lexeme : Lexeme t word) (longest : t.kind = .integer → Stops Char.isDigit tail) :
      Step ⟨p, gap ++ (word ++ tail)⟩ (.ok t) ⟨p + gap.length + word.length, tail⟩
  | illegal {p : Nat} {gap tail : List Char} {c : Char} (spaces : IsGap gap) (bad : ¬IsLegal c) :
      Step ⟨p, gap ++ c :: tail⟩ (.error ⟨c, p + gap.length⟩) ⟨p + gap.length, c :: tail⟩

theorem skipSpaces_eq {p : Nat} {gap tail : List Char} (hgap : IsGap gap)
    (htail : Stops (· = ' ') tail) : skipSpaces ⟨p, gap ++ tail⟩ = ⟨p + gap.length, tail⟩ := by
  simp only [skipSpaces, takeWhile_run (isGap_iff.1 hgap) htail, forward, List.drop_left]

theorem next_of_head {p : Nat} {gap more : List Char} {c : Char} (hgap : IsGap gap) (hc : c ≠ ' ')
    (hd : c.isDigit = false) :
    next ⟨p, gap ++ c :: more⟩ = match Token.ofSymbol? c with
      | some t => (.ok t, ⟨p + gap.length + 1, more⟩)
      | none => (.error ⟨c, p + gap.length⟩, ⟨p + gap.length, c :: more⟩) := by
  have hstop : Stops (· = ' ') (c :: more) := by simpa [Stops] using hc
  simp only [next, skipSpaces_eq hgap hstop, hd, Bool.false_eq_true, if_false]
  cases Token.ofSymbol? c <;> rfl

theorem next_of_run {p : Nat} {gap run tail : List Char} (hgap : IsGap gap) (hne : run ≠ [])
    (hrun : ∀ c ∈ run, c.isDigit = true) (htail : Stops Char.isDigit tail) :
    next ⟨p, gap ++ (run ++ tail)⟩ =
      (.ok (.integer (Numeral.value run)), ⟨p + gap.length + run.length, tail⟩) := by
  obtain ⟨c, more, rfl⟩ := List.exists_cons_of_ne_nil hne
  have hd : c.isDigit = true := hrun c (by simp)
  have hstop : Stops (· = ' ') (c :: (more ++ tail)) := by
    have hc : c ≠ ' ' := by rintro rfl; exact absurd hd (by decide)
    simpa [Stops] using hc
  have htake := takeWhile_run hrun htail
  simp only [List.cons_append] at htake ⊢
  simp only [next, skipSpaces_eq hgap hstop, hd, if_true, htake, Numeral.read_eq_value]
  simp [forward]

/-- Whatever the relation allows is what the call does. -/
theorem Step.next_eq {c d : Cursor} {o : Except LexicalError Token} (h : Step c o d) :
    c.next = (o, d) := by
  cases h with
  | @finish p gap spaces =>
    have h : skipSpaces ⟨p, gap ++ []⟩ = ⟨p + gap.length, []⟩ := skipSpaces_eq spaces nofun
    rw [List.append_nil] at h
    simp only [next, h]
  | token spaces lexeme longest =>
    obtain ⟨rfl, hne, hrun⟩ | ⟨c, rfl, hc⟩ := lexeme.run_or_symbol
    · exact next_of_run spaces hne hrun (longest rfl)
    · obtain ⟨hd, hs⟩ := isDigit_of_ofSymbol? hc
      rw [List.singleton_append, next_of_head spaces hs hd, hc]
      rfl
  | illegal spaces bad =>
    simp only [isLegal_iff, not_or, not_exists] at bad
    obtain ⟨hs, hd, hc⟩ := bad
    rw [next_of_head spaces hs (by simpa using hd), Option.eq_none_iff_forall_ne_some.2 hc]

/-- Every call does what the relation says. -/
theorem step_next (c : Cursor) : Step c c.next.1 c.next.2 := by
  obtain ⟨p, text⟩ := c
  suffices h : ∃ o d, Step ⟨p, text⟩ o d by
    obtain ⟨o, d, h⟩ := h
    rw [h.next_eq]; exact h
  obtain ⟨gap, text, rfl, hgap, hstop⟩ := exists_run (· = ' ') text
  have hgap : IsGap gap := isGap_iff.2 hgap
  obtain _ | ⟨c, more⟩ := text
  · rw [List.append_nil]; exact ⟨_, _, .finish hgap⟩
  by_cases hlegal : IsLegal c
  · obtain rfl | hd | ⟨t, ht⟩ := isLegal_iff.1 hlegal
    · exact absurd (hstop ' ' rfl) (by simp)
    · obtain ⟨run, tail, heq, hrun, htail⟩ := exists_run Char.isDigit (c :: more)
      have hne : run ≠ [] := by
        rintro rfl
        rw [List.nil_append] at heq
        rw [← heq] at htail
        exact absurd (htail c rfl) (by simp [hd])
      rw [heq]
      exact ⟨_, _, .token hgap (.integer hne hrun) fun _ => htail⟩
    · obtain ⟨hlex, hkind⟩ := lexeme_of_ofSymbol? ht
      rw [← List.singleton_append]
      exact ⟨_, _, .token hgap hlex fun h => absurd h hkind⟩
  · exact ⟨_, _, .illegal hgap hlegal⟩

theorem step_iff {c d : Cursor} {o : Except LexicalError Token} : Step c o d ↔ c.next = (o, d) :=
  ⟨Step.next_eq, fun h => by have := step_next c; rwa [h] at this⟩

end Cursor

end Calculator
