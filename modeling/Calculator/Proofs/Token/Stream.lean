/-
The tokens of a text as a stream: what one call of `next` after another answers.

`Reads c ts d` says that the calls from `c` on give the tokens `ts`, none of them
the end, and leave the cursor at `d`. Reading on from a cursor comes to a `Final`
cursor after one list of tokens only (`Reads.det`), and `tokenize` gives that
list or the error it ended on (`tokenize_eq_ok_iff`, `tokenize_eq_error_iff`).
-/
import Calculator.Token.Cursor

namespace Calculator

namespace Cursor

/-! ## Call after call -/

/-- The cursor after so many calls. -/
def after (c : Cursor) : Nat → Cursor
  | 0 => c
  | n + 1 => c.next.2.after n

/-- What the call after so many others answers. -/
def answer (c : Cursor) (n : Nat) : Except LexicalError Token := (c.after n).next.1

theorem after_succ (c : Cursor) (n : Nat) : c.after (n + 1) = c.next.2.after n := rfl

theorem answer_zero (c : Cursor) : c.answer 0 = c.next.1 := rfl

theorem answer_succ (c : Cursor) (n : Nat) : c.answer (n + 1) = c.next.2.answer n := rfl

/-- No call from here on gives a token other than the end. -/
def Final (c : Cursor) : Prop := ∀ t, c.next.1 = .ok t → t = .endOfText

/-- The calls from one cursor on give these tokens, none of them the end, and leave the other. -/
inductive Reads : Cursor → List Token → Cursor → Prop where
  | nil {c : Cursor} : Reads c [] c
  | cons {c d e : Cursor} {t : Token} {ts : List Token} (next : c.next = (.ok t, d))
      (more : t ≠ .endOfText) (rest : Reads d ts e) : Reads c (t :: ts) e

theorem Final.of_endOfText {c : Cursor} (h : c.next.1 = .ok .endOfText) : Final c :=
  fun _ ht => (Except.ok.inj (h.symm.trans ht)).symm

theorem next_next_of_endOfText {c : Cursor} (h : c.next.1 = .ok .endOfText) :
    c.next.2.next.1 = .ok .endOfText := by
  simp [next.eq_1 c.next.2, skipSpaces, forward, rest_next_of_endOfText h]

theorem Final.of_error {c : Cursor} {e : LexicalError} (h : c.next.1 = .error e) : Final c :=
  fun _ ht => nomatch h.symm.trans ht

namespace Reads

variable {c d e : Cursor} {ts us : List Token}

theorem det (h : Reads c ts d) (hd : Final d) (h' : Reads c us e) (he : Final e) :
    ts = us ∧ d = e := by
  induction h generalizing us with
  | nil =>
    cases h' with
    | nil => exact ⟨rfl, rfl⟩
    | cons next more _ => exact absurd (hd _ (by rw [next])) more
  | cons next more _ ih =>
    cases h' with
    | nil => exact absurd (he _ (by rw [next])) more
    | cons next' _ rest' =>
      rw [next] at next'
      cases next'
      obtain ⟨rfl, rfl⟩ := ih hd rest'
      exact ⟨rfl, rfl⟩

theorem append (h : Reads c ts d) (h' : Reads d us e) : Reads c (ts ++ us) e := by
  induction h with
  | nil => exact h'
  | cons next more _ ih => exact .cons next more (ih h')

theorem of_append (h : Reads c (ts ++ us) e) : ∃ d, Reads c ts d ∧ Reads d us e := by
  induction ts generalizing c with
  | nil => exact ⟨c, .nil, h⟩
  | cons t ts ih =>
    cases h with
    | cons next more rest =>
      obtain ⟨d, h₁, h₂⟩ := ih rest
      exact ⟨d, .cons next more h₁, h₂⟩

/-- Whatever is read on the way to an end is a beginning of what is read there. -/
theorem isPrefix (h : Reads c us e) (he : Final e) (h' : Reads c ts d) : ts <+: us := by
  induction h' generalizing us with
  | nil => exact List.nil_prefix
  | cons next more _ ih =>
    cases h with
    | nil => exact absurd (he _ (by rw [next])) more
    | cons next' _ rest' =>
      rw [next] at next'
      cases next'
      exact List.cons_prefix_cons.2 ⟨rfl, ih rest'⟩

theorem length_le (h : Reads c ts d) : ts.length + d.rest.length ≤ c.rest.length := by
  induction h with
  | nil => simp
  | cons next more _ ih =>
    have hlt := length_next_lt (by rw [next]) more
    simp only [next] at hlt
    simp only [List.length_cons]
    omega

theorem after_eq (h : Reads c ts d) : c.after ts.length = d := by
  induction h with
  | nil => rfl
  | cons next _ _ ih => rw [List.length_cons, after_succ, next, ih]

theorem answer_eq (h : Reads c ts d) {i : Nat} (hi : i < ts.length) :
    c.answer i = .ok ts[i] := by
  induction h generalizing i with
  | nil => simp at hi
  | cons next _ _ ih =>
    cases i with
    | zero => rw [answer_zero, next]; rfl
    | succ i => rw [answer_succ, next]; exact ih (by simpa using hi)

theorem exists_rest {t : Token} (h : Reads c us e) (he : e.next.1 = .ok .endOfText)
    (h' : Reads c ts d) (hd : d.next.1 = .ok t) : ∃ rest, us ++ [.endOfText] = ts ++ t :: rest := by
  induction h' generalizing us with
  | nil =>
    cases h with
    | nil =>
      cases he.symm.trans hd
      exact ⟨[], rfl⟩
    | cons next _ _ =>
      rw [next] at hd
      cases hd
      exact ⟨_, rfl⟩
  | cons next more _ ih =>
    cases h with
    | nil =>
      rw [next] at he
      cases he
      exact absurd rfl more
    | cons next' _ rest' =>
      rw [next] at next'
      cases next'
      obtain ⟨rest, hrest⟩ := ih rest' hd
      exact ⟨rest, congrArg _ hrest⟩

theorem exists_of_append {t : Token} {rest : List Token} (h : Reads c us e)
    (he : e.next.1 = .ok .endOfText) (heq : us ++ [.endOfText] = ts ++ t :: rest) :
    ∃ d, Reads c ts d ∧ d.next.1 = .ok t := by
  induction ts generalizing c us with
  | nil =>
    cases h with
    | nil =>
      cases heq
      exact ⟨_, .nil, he⟩
    | cons next _ _ =>
      cases heq
      exact ⟨_, .nil, by rw [next]⟩
  | cons u ts ih =>
    cases h with
    | nil => simp at heq
    | cons next more rest' =>
      obtain ⟨rfl, htail⟩ := List.cons.inj heq
      obtain ⟨d, hreads, hd⟩ := ih rest' htail
      exact ⟨d, .cons next more hreads, hd⟩

theorem ne_endOfText (h : Reads c ts d) : .endOfText ∉ ts := by
  induction h with
  | nil => simp
  | cons next more _ ih =>
    simp only [List.mem_cons, not_or]
    exact ⟨fun heq => more heq.symm, ih⟩

end Reads

/-! ## Reading to the end -/

/-- Scanning comes to a final cursor, and answers by what was read and where it ended. -/
theorem reads_scanAfter (done : List Reading) (c : Cursor) :
    ∃ ts d, Reads c ts d ∧
      ((d.next.1 = .ok .endOfText ∧ (scanAfter done c).stopped = none ∧
          (scanAfter done c).readings.map (·.token) =
            done.reverse.map (·.token) ++ (ts ++ [.endOfText])) ∨
        (∃ e, d.next.1 = .error e ∧ (scanAfter done c).stopped = some e)) := by
  fun_induction scanAfter done c with
  | case1 done c e d h => exact ⟨[], c, .nil, .inr ⟨e, by rw [h], rfl⟩⟩
  | case2 done c d h done' => exact ⟨[], c, .nil, .inl ⟨by rw [h], rfl, by simp [done']⟩⟩
  | case3 done c t d h done' ht ih =>
    obtain ⟨ts, f, hreads, hend⟩ := ih
    refine ⟨t :: ts, f, .cons h ht hreads, ?_⟩
    obtain ⟨hf, hstop, hmap⟩ | hend := hend
    · exact .inl ⟨hf, hstop, by simp [hmap, done']⟩
    · exact .inr hend

end Cursor

open Cursor

theorem reads_tokenize (text : List Char) :
    ∃ ts d, Reads (start text) ts d ∧
      ((d.next.1 = .ok .endOfText ∧ tokenize text = .ok (ts ++ [.endOfText])) ∨
        (∃ e, d.next.1 = .error e ∧ tokenize text = .error e)) := by
  obtain ⟨ts, d, hreads, hend⟩ := reads_scanAfter [] (start text)
  refine ⟨ts, d, hreads, ?_⟩
  obtain ⟨hd, hstop, hmap⟩ | ⟨e, hd, hstop⟩ := hend
  · refine .inl ⟨hd, ?_⟩
    simp only [tokenize, scan, Cursor.scan, hstop, hmap]
    rfl
  · refine .inr ⟨e, hd, ?_⟩
    simp only [tokenize, scan, Cursor.scan, hstop]

theorem tokenize_eq_ok_iff {text : List Char} {ts : List Token} :
    tokenize text = .ok (ts ++ [.endOfText]) ↔
      ∃ d, Reads (start text) ts d ∧ d.next.1 = .ok .endOfText := by
  obtain ⟨us, d, hreads, ⟨hd, htok⟩ | ⟨e, hd, htok⟩⟩ := reads_tokenize text
  · rw [htok]
    constructor
    · intro h
      obtain rfl : us = ts := List.append_cancel_right (Except.ok.inj h)
      exact ⟨d, hreads, hd⟩
    · rintro ⟨f, hreads', hf⟩
      obtain ⟨rfl, -⟩ := hreads.det (.of_endOfText hd) hreads' (.of_endOfText hf)
      rfl
  · rw [htok]
    constructor
    · exact nofun
    · rintro ⟨f, hreads', hf⟩
      obtain ⟨-, rfl⟩ := hreads.det (.of_error hd) hreads' (.of_endOfText hf)
      exact nomatch hd.symm.trans hf

theorem tokenize_eq_error_iff {text : List Char} {e : LexicalError} :
    tokenize text = .error e ↔ ∃ ts d, Reads (start text) ts d ∧ d.next.1 = .error e := by
  obtain ⟨us, d, hreads, ⟨hd, htok⟩ | ⟨e', hd, htok⟩⟩ := reads_tokenize text
  · rw [htok]
    constructor
    · exact nofun
    · rintro ⟨ts, f, hreads', hf⟩
      obtain ⟨-, rfl⟩ := hreads.det (.of_endOfText hd) hreads' (.of_error hf)
      exact nomatch hd.symm.trans hf
  · rw [htok]
    constructor
    · intro h
      cases h
      exact ⟨us, d, hreads, hd⟩
    · rintro ⟨ts, f, hreads', hf⟩
      obtain ⟨-, rfl⟩ := hreads.det (.of_error hd) hreads' (.of_error hf)
      rw [hd] at hf
      cases hf
      rfl

end Calculator
