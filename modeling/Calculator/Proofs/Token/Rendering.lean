/-
Tokenizing against the written form of tokens: a text is tokenized into a list of
tokens exactly if it renders that list, and refused exactly for its first
character that may not stand in an expression (`tokenize_iff_renders`).

The two directions on tokens meet in `reads_iff_renders`. What carries them is
that a run of digits taken by `next` is never followed by a digit, and that the
words of a rendering begin with a digit only if an integer stands first.
-/
import Calculator.Proofs.Token.Step
import Calculator.Proofs.Token.Stream

namespace Calculator

open Cursor

/-! ## What words begin with -/

theorem Lexeme.ne_endOfText {t : Token} {word : List Char} (h : Lexeme t word) :
    t ≠ .endOfText := by
  cases h <;> simp

theorem not_startsWithInteger_nil : ¬StartsWithInteger [] := fun ⟨_, _, h⟩ => nomatch h

theorem not_startsWithInteger_cons {t : Token} {more : List Token} (h : t.kind ≠ .integer) :
    ¬StartsWithInteger (t :: more) := by
  rintro ⟨n, more', heq⟩
  cases heq
  exact h rfl

theorem RendersWords.not_stops {ts : List Token} {words : List Char} (h : RendersWords ts words)
    (hts : StartsWithInteger ts) : ¬Stops Char.isDigit words := by
  obtain ⟨n, more, rfl⟩ := hts
  cases h with
  | cons lexeme _ _ _ =>
    cases lexeme with
    | @integer run nonempty digits =>
      obtain ⟨c, run, rfl⟩ := List.exists_cons_of_ne_nil nonempty
      intro hstop
      have hc : c.isDigit = true := digits c (by simp)
      rw [hstop c rfl] at hc
      cases hc

theorem RendersWords.stops {ts : List Token} {words : List Char} (h : RendersWords ts words)
    (hts : ¬StartsWithInteger ts) : Stops Char.isDigit words := by
  cases h with
  | nil => exact nofun
  | cons lexeme _ _ _ =>
    obtain ⟨rfl, -, -⟩ | ⟨c, rfl, hc⟩ := lexeme.run_or_symbol
    · exact absurd ⟨_, _, rfl⟩ hts
    · intro d hd
      cases hd
      exact (isDigit_of_ofSymbol? hc).1

theorem IsGap.nil : IsGap [] := nofun

theorem IsGap.space : IsGap [' '] := fun _ h => List.mem_singleton.1 h

theorem IsGap.stops {gap tail : List Char} (h : IsGap gap) (hne : gap ≠ []) :
    Stops Char.isDigit (gap ++ tail) := by
  obtain ⟨c, gap, rfl⟩ := List.exists_cons_of_ne_nil hne
  intro d hd
  cases hd
  rw [h c (by simp)]
  decide

/-- Words do not lengthen an integer in front of their gap if they stand apart from it. -/
theorem RendersWords.stops_gap_iff {ts : List Token} {gap words : List Char}
    (h : RendersWords ts words) (hgap : IsGap gap) :
    Stops Char.isDigit (gap ++ words) ↔ (StartsWithInteger ts → gap ≠ []) := by
  constructor
  · rintro hstops hinteger rfl
    exact h.not_stops hinteger hstops
  · intro apart
    by_cases hne : gap = []
    · subst hne
      exact h.stops fun hinteger => apart hinteger rfl
    · exact hgap.stops hne

theorem RendersWords.cons_symbol {t : Token} {more : List Token} {c : Char}
    {gap rest : List Char} (lexeme : Lexeme t [c]) (hkind : t.kind ≠ .integer)
    (spaces : IsGap gap) (tail : RendersWords more rest) :
    RendersWords (t :: more) (c :: (gap ++ rest)) :=
  .cons lexeme spaces (fun h => absurd h hkind) tail

/-! ## Reading and rendering -/

theorem renders_of_reads {c d : Cursor} {ts : List Token} (h : Reads c ts d)
    (hd : d.next.1 = .ok .endOfText) : Renders ts c.rest := by
  induction h with
  | @nil c =>
    obtain ⟨p, text⟩ := c
    have hstep := step_next ⟨p, text⟩
    rw [hd] at hstep
    generalize next ⟨p, text⟩ = answer at hstep
    obtain ⟨o, e⟩ := answer
    cases hstep with
    | finish spaces => exact ⟨text, [], by simp, spaces, .nil⟩
    | token _ lexeme _ => exact absurd rfl lexeme.ne_endOfText
  | cons next more _ ih =>
    obtain ⟨gap', words, hrest, hgap', hwords⟩ := ih hd
    cases step_iff.2 next with
    | finish _ => exact absurd rfl more
    | @token p gap word tail t spaces lexeme longest =>
      dsimp only at hrest
      subst hrest
      have apart := fun hkind => (hwords.stops_gap_iff hgap').1 (longest hkind)
      exact ⟨gap, word ++ (gap' ++ words), rfl, spaces, .cons lexeme hgap' apart hwords⟩

theorem reads_of_renders {ts : List Token} {words : List Char} (h : RendersWords ts words) :
    ∀ (p : Nat) (gap : List Char), IsGap gap →
      ∃ d, Reads ⟨p, gap ++ words⟩ ts d ∧ d.next.1 = .ok .endOfText := by
  induction h with
  | nil =>
    intro p gap hgap
    refine ⟨_, .nil, ?_⟩
    rw [List.append_nil, (Step.finish hgap).next_eq]
  | @cons t more word gap' rest lexeme spaces apart tail ih =>
    intro p gap hgap
    have hlongest := fun hkind => (tail.stops_gap_iff spaces).2 (apart hkind)
    obtain ⟨d, hreads, hd⟩ := ih (p + gap.length + word.length) gap' spaces
    exact ⟨d, .cons (Step.token hgap lexeme hlongest).next_eq lexeme.ne_endOfText hreads, hd⟩

/-- A text is read to its end as the tokens that it renders, and as no others. -/
theorem reads_iff_renders {text : List Char} {ts : List Token} :
    (∃ d, Reads (start text) ts d ∧ d.next.1 = .ok .endOfText) ↔ Renders ts text := by
  constructor
  · rintro ⟨d, hreads, hd⟩
    exact renders_of_reads hreads hd
  · rintro ⟨gap, words, rfl, hgap, hwords⟩
    exact reads_of_renders hwords 0 gap hgap

theorem Renders.tokenize_eq {ts : List Token} {text : List Char} (h : Renders ts text) :
    tokenize text = .ok (ts ++ [.endOfText]) :=
  tokenize_eq_ok_iff.2 (reads_iff_renders.2 h)

theorem Renders.unique {ts us : List Token} {text : List Char} (h : Renders ts text)
    (h' : Renders us text) : ts = us :=
  List.append_cancel_right (Except.ok.inj (h.tokenize_eq.symm.trans h'.tokenize_eq))

/-! ## The first illegal character -/

/-- The error names the first character of the text that may not stand in an expression. -/
def FirstIllegal (text : List Char) (e : LexicalError) : Prop :=
  text[e.position]? = some e.char ∧ ¬IsLegal e.char ∧
    ∀ i < e.position, ∀ c, text[i]? = some c → IsLegal c

theorem firstIllegal_append {legal more : List Char} {c : Char} (h : ∀ x ∈ legal, IsLegal x)
    (hc : ¬IsLegal c) : FirstIllegal (legal ++ c :: more) ⟨c, legal.length⟩ := by
  refine ⟨by simp, hc, fun i hi x hx => ?_⟩
  rw [List.getElem?_append_left hi] at hx
  exact h x (List.mem_of_getElem? hx)

theorem FirstIllegal.unique {text : List Char} {e e' : LexicalError} (h : FirstIllegal text e)
    (h' : FirstIllegal text e') : e = e' := by
  obtain ⟨c, p⟩ := e
  obtain ⟨c', p'⟩ := e'
  obtain ⟨hc, hbad, hlegal⟩ := h
  obtain ⟨hc', hbad', hlegal'⟩ := h'
  dsimp only at hc hbad hlegal hc' hbad' hlegal'
  obtain hlt | rfl | hlt := Nat.lt_trichotomy p p'
  · exact absurd (hlegal' p hlt c hc) hbad
  · rw [hc] at hc'
    cases hc'
    rfl
  · exact absurd (hlegal p' hlt c' hc') hbad'

theorem IsGap.isLegal {gap : List Char} (h : IsGap gap) : ∀ c ∈ gap, IsLegal c :=
  fun c hc => .inl (h c hc)

theorem Lexeme.isLegal {t : Token} {word : List Char} (h : Lexeme t word) :
    ∀ c ∈ word, IsLegal c := by
  obtain ⟨-, -, hrun⟩ | ⟨d, rfl, hd⟩ := h.run_or_symbol
  · exact fun c hc => .inr (.inl (hrun c hc))
  · intro c hc
    rw [List.mem_singleton] at hc
    exact hc ▸ isLegal_iff.2 (.inr (.inr ⟨t, hd⟩))

theorem exists_legal_of_reads {c d : Cursor} {ts : List Token} (h : Reads c ts d) :
    ∃ passed, c.rest = passed ++ d.rest ∧ d.position = c.position + passed.length ∧
      ∀ x ∈ passed, IsLegal x := by
  induction h with
  | nil => exact ⟨[], rfl, rfl, nofun⟩
  | cons next more _ ih =>
    obtain ⟨passed, hrest, hpos, hlegal⟩ := ih
    cases step_iff.2 next with
    | finish _ => exact absurd rfl more
    | @token p gap word tail t spaces lexeme longest =>
      dsimp only at hrest hpos ⊢
      refine ⟨gap ++ (word ++ passed), by simp [hrest], by simp [hpos]; omega, fun x hx => ?_⟩
      simp only [List.mem_append] at hx
      rcases hx with hx | hx | hx
      · exact spaces.isLegal x hx
      · exact lexeme.isLegal x hx
      · exact hlegal x hx

/-- The error that reading ends on is the first illegal character. -/
theorem firstIllegal_of_reads {text : List Char} {d : Cursor} {ts : List Token} {e : LexicalError}
    (h : Reads (start text) ts d) (hd : d.next.1 = .error e) : FirstIllegal text e := by
  obtain ⟨passed, hrest, hpos, hlegal⟩ := exists_legal_of_reads h
  have hstep := step_next d
  rw [hd] at hstep
  generalize d.next.2 = after at hstep
  cases hstep with
  | @illegal p gap tail c spaces bad =>
    dsimp only [start] at hrest hpos
    have hall : ∀ x ∈ passed ++ gap, IsLegal x := by
      intro x hx
      rw [List.mem_append] at hx
      exact hx.elim (hlegal x) (spaces.isLegal x)
    have hfirst : FirstIllegal (passed ++ gap ++ c :: tail) ⟨c, (passed ++ gap).length⟩ :=
      firstIllegal_append hall bad
    rw [List.append_assoc, ← hrest, List.length_append] at hfirst
    rwa [hpos, Nat.zero_add]

theorem isLegal_of_reads {text : List Char} {d : Cursor} {ts : List Token}
    (h : Reads (start text) ts d) (hd : d.next.1 = .ok .endOfText) : ∀ c ∈ text, IsLegal c := by
  obtain ⟨passed, hrest, -, hlegal⟩ := exists_legal_of_reads h
  have hstep := step_next d
  rw [hd] at hstep
  generalize d.next.2 = after at hstep
  intro c hc
  cases hstep with
  | finish spaces =>
    dsimp only [start] at hrest
    rw [hrest, List.mem_append] at hc
    exact hc.elim (hlegal _) (spaces.isLegal _)
  | token _ lexeme _ => exact absurd rfl lexeme.ne_endOfText

theorem not_firstIllegal_of_reads {text : List Char} {d : Cursor} {ts : List Token}
    (h : Reads (start text) ts d) (hd : d.next.1 = .ok .endOfText) (e : LexicalError) :
    ¬FirstIllegal text e :=
  fun ⟨hc, hbad, _⟩ => hbad (isLegal_of_reads h hd _ (List.mem_of_getElem? hc))

theorem exists_reads_of_legal {text : List Char} (h : ∀ c ∈ text, IsLegal c) :
    ∃ ts d, Reads (start text) ts d ∧ d.next.1 = .ok .endOfText := by
  obtain ⟨ts, d, hreads, ⟨hd, -⟩ | ⟨e, hd, -⟩⟩ := reads_tokenize text
  · exact ⟨ts, d, hreads, hd⟩
  · obtain ⟨hc, hbad, -⟩ := firstIllegal_of_reads hreads hd
    exact absurd (h _ (List.mem_of_getElem? hc)) hbad

theorem lexeme_toDigits (n : Nat) : Lexeme (.integer n) (Nat.toDigits 10 n) := by
  have hdigits : ∀ c ∈ Nat.toDigits 10 n, c.isDigit = true := fun c hc =>
    Nat.isDigit_of_mem_toDigits (by decide) (by decide) hc
  have hlexeme := Lexeme.integer Nat.toDigits_ne_nil hdigits
  rwa [Numeral.value_toDigits] at hlexeme

theorem exists_renders {ts : List Token} (h : .endOfText ∉ ts) : ∃ text, Renders ts text := by
  suffices hwords : ∃ words, RendersWords ts words by
    obtain ⟨words, hwords⟩ := hwords
    exact ⟨words, [], words, rfl, .nil, hwords⟩
  induction ts with
  | nil => exact ⟨[], .nil⟩
  | cons t ts ih =>
    simp only [List.mem_cons, not_or] at h
    obtain ⟨words, hwords⟩ := ih h.2
    have hlexeme : ∃ word, Lexeme t word := by
      cases t with
      | integer n => exact ⟨_, lexeme_toDigits n⟩
      | additive sign => exact ⟨_, .additive sign⟩
      | multiplicative scaling => exact ⟨_, .multiplicative scaling⟩
      | power => exact ⟨_, .power⟩
      | paren side => exact ⟨_, .paren side⟩
      | endOfText => exact absurd rfl h.1
    obtain ⟨word, hword⟩ := hlexeme
    exact ⟨_, .cons hword .space (fun _ _ => nofun) hwords⟩

/-! ## Tokenizing -/

/-- **Tokenizing takes the longest words.** A text is tokenized into tokens and the end exactly
if it renders those tokens, and it is refused exactly for its first illegal character. One of the
two always happens: the calls of `next` give no more tokens than the text has characters, and the
call after them gives the end or the error. -/
theorem tokenize_iff_renders (text : List Char) :
    (∀ ts, tokenize text = .ok (ts ++ [.endOfText]) ↔ Renders ts text) ∧
    (∀ e, tokenize text = .error e ↔ FirstIllegal text e) ∧
    ∃ ts : List Token, .endOfText ∉ ts ∧ ts.length ≤ text.length ∧
      (∀ i (hi : i < ts.length), (start text).answer i = .ok ts[i]) ∧
      (((start text).answer ts.length = .ok .endOfText ∧
          tokenize text = .ok (ts ++ [.endOfText])) ∨
        (∃ e, (start text).answer ts.length = .error e ∧ tokenize text = .error e)) := by
  obtain ⟨ts, d, hreads, hend⟩ := reads_tokenize text
  refine ⟨fun us => tokenize_eq_ok_iff.trans reads_iff_renders, fun e => ⟨fun h => ?_, fun h => ?_⟩,
    ts, hreads.ne_endOfText, ?_, fun i hi => hreads.answer_eq hi, ?_⟩
  · obtain ⟨us, f, hreads', hf⟩ := tokenize_eq_error_iff.1 h
    exact firstIllegal_of_reads hreads' hf
  · obtain ⟨hd, -⟩ | ⟨e', hd, htok⟩ := hend
    · exact absurd h (not_firstIllegal_of_reads hreads hd e)
    · rw [htok, (firstIllegal_of_reads hreads hd).unique h]
  · have := hreads.length_le
    dsimp only [start] at this
    omega
  · rw [answer, hreads.after_eq]
    exact hend

end Calculator
