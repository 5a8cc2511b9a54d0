/-
What is parsed is the tokens of a text, and not how they are written: texts that
are tokenized alike have the same outcome, and so neither spaces nor leading
zeros matter (`sameOutcome_of_tokenize`).

A parser reads its text as far as it needs. What it took is a beginning of what
the whole text is read as (`Reads.exists_rest`), and with it any other text of
these tokens begins (`Reads.exists_of_append`), so the parser of that one takes
the same (`exists_eats_of_tree`). A lexical error that a parser meets would be the
error of tokenizing too (`tokenize_of_parse_eq_error`).
-/
import Calculator.Interpretation
import Calculator.Proofs.Expr.Lookahead
import Calculator.Proofs.Token.Concatenation

namespace Calculator

open Cursor Calculator.Parser

/-! ## Reading on demand and reading first -/

/-- The lexical error that a parser meets is the one of tokenizing the whole text. -/
theorem tokenize_of_parse_eq_error {strict : Bool} {text : List Char} {e : LexicalError}
    (h : parse strict text = .error (.lexical e)) : tokenize text = .error e := by
  obtain ⟨e', hfirst, heq⟩ | ⟨p, q, hp, htree⟩ := exists_tree_of_parse h
  · cases heq
    exact tokenize_eq_error_iff.2 ⟨[], _, .nil, hfirst⟩
  · obtain ⟨ts, r, heats, hleaves, -⟩ := treeWithin_replays htree
    cases hleaves with
    | stays answers => exact absurd ⟨e, rfl⟩ answers
    | unread fetch =>
      obtain ⟨d, hreads, hd⟩ := reads_of_unread (ofText_ok hp).2.1 heats fetch
      exact tokenize_eq_error_iff.2 ⟨_, d, hreads, hd⟩

theorem not_isLexical_of_tokenize {text : List Char} {ts : List Token}
    (h : tokenize text = .ok ts) (strict : Bool) : ¬IsLexical (parse strict text) := by
  rintro ⟨e, hparse⟩
  cases h.symm.trans (tokenize_of_parse_eq_error hparse)

theorem exists_reads_of_tokenize {text : List Char} {ts : List Token} (h : tokenize text = .ok ts) :
    ∃ us d, ts = us ++ [.endOfText] ∧ Reads (start text) us d ∧ d.next.1 = .ok .endOfText := by
  obtain ⟨us, d, hreads, ⟨hd, htok⟩ | ⟨e, -, htok⟩⟩ := reads_tokenize text
  · exact ⟨us, d, Except.ok.inj (h.symm.trans htok), hreads, hd⟩
  · cases h.symm.trans htok

/-- Texts that are tokenized alike are parsed alike. -/
theorem parse_eq_of_tokenize {a b : List Char} {ts : List Token} (ha : tokenize a = .ok ts)
    (hb : tokenize b = .ok ts) (strict : Bool) : parse strict b = parse strict a := by
  have answers := not_isLexical_of_tokenize ha strict
  obtain ⟨us, d, rfl, hreads, hd⟩ := exists_reads_of_tokenize ha
  obtain ⟨d', hreads', hd'⟩ := tokenize_eq_ok_iff.1 hb
  obtain ⟨e, -, herror⟩ | ⟨p, q, hp, htree⟩ := @exists_tree_of_parse strict a _ rfl
  · exact absurd ⟨e, herror⟩ answers
  · obtain ⟨taken, heats, hsame⟩ := exists_eats_of_tree hp htree answers
    -- The tokens taken and the lookahead begin what the one text is read as, and so the other.
    obtain ⟨f, htaken, hf⟩ := reads_of_eats (ofText_ok hp).2.1 heats
    obtain ⟨rest, hrest⟩ := hreads.exists_rest hd htaken hf.next_eq
    obtain ⟨f', htaken', hf'⟩ := hreads'.exists_of_append hd' hrest
    exact hsame htaken' hf' (.same _)

/-! ## Spaces and leading zeros -/

theorem exists_renders_of_legal {text : List Char} (h : ∀ c ∈ text, IsLegal c) :
    ∃ ts, Renders ts text := by
  obtain ⟨ts, d, hreads, hd⟩ := exists_reads_of_legal h
  exact ⟨ts, reads_iff_renders.1 ⟨d, hreads, hd⟩⟩

/-- In both modes the texts come to the same tree or to the same grammar error, and to the same
value, steps and events of evaluation. -/
structure SameOutcome (a b : List Char) : Prop where
  answers : ∀ strict, ¬IsLexical (parse strict a)
  parsed : ∀ strict, parse strict a = parse strict b
  interpreted : ∀ strict, interpret strict a = interpret strict b

theorem SameOutcome.of_tokenize {a b : List Char} {ts : List Token} (ha : tokenize a = .ok ts)
    (hb : tokenize b = .ok ts) : SameOutcome a b where
  answers := not_isLexical_of_tokenize ha
  parsed := parse_eq_of_tokenize hb ha
  interpreted strict := congrArg (·.map Expr.evaluate) (parse_eq_of_tokenize hb ha strict)

/-- A cut that no number crosses stays one with spaces behind it. -/
theorem Apart.gap {u v gap : List Char} (h : Apart u v) (hgap : IsGap gap) :
    Apart u (gap ++ v) := by
  intro c hc hdigit
  by_cases hne : gap = []
  · subst hne
    exact h c hc hdigit
  · exact hgap.stops hne

theorem Apart.before_digit {u v : List Char} (h : Apart u v) (hv : ¬Stops Char.isDigit v)
    (v' : List Char) : Apart u v' :=
  fun c hc hdigit => absurd (h c hc hdigit) hv

/-- **Only the tokens of a text matter.** Texts that are tokenized alike have the same outcome. So
spaces may be put in or left out wherever no number goes across, and zeros before any number. -/
theorem sameOutcome_of_tokenize :
    (∀ a b ts, tokenize a = .ok ts → tokenize b = .ok ts → SameOutcome a b) ∧
    ∀ u v, (∀ c ∈ u ++ v, IsLegal c) → Apart u v →
      (∀ gap, IsGap gap → SameOutcome (u ++ (gap ++ v)) (u ++ v)) ∧
      (¬Stops Char.isDigit v → ∀ zeros, (∀ c ∈ zeros, c = '0') →
        SameOutcome (u ++ (zeros ++ v)) (u ++ v)) := by
  refine ⟨fun a b ts ha hb => .of_tokenize ha hb, fun u v legal apart => ?_⟩
  obtain ⟨hu, hv⟩ := List.forall_mem_append.1 legal
  obtain ⟨us, hus⟩ := exists_renders_of_legal hu
  obtain ⟨vs, hvs⟩ := exists_renders_of_legal hv
  have hwhole : Renders (us ++ vs) (u ++ v) := hus.append hvs apart
  refine ⟨fun gap hgap => ?_, fun hdigit zeros hzeros => ?_⟩
  · have hspaced : Renders (us ++ vs) (u ++ (gap ++ v)) :=
      hus.append (hvs.gap hgap) (apart.gap hgap)
    exact .of_tokenize hspaced.tokenize_eq hwhole.tokenize_eq
  · have hlonger : Renders (us ++ vs) (u ++ (zeros ++ v)) :=
      hus.append (hvs.zeros hzeros hdigit) (apart.before_digit hdigit _)
    exact .of_tokenize hlonger.tokenize_eq hwhole.tokenize_eq

/-- `- 7` and `-07` have the outcome of `-7`, and of each other. -/
theorem sameOutcome_of_tokenize_negation :
    SameOutcome ['-', ' ', '7'] ['-', '7'] ∧ SameOutcome ['-', '0', '7'] ['-', '7'] ∧
      SameOutcome ['-', ' ', '7'] ['-', '0', '7'] := by
  have apart : Apart ['-'] ['7'] := by
    intro c hc hdigit
    cases hc
    cases hdigit
  have hdigit : ¬Stops Char.isDigit ['7'] := fun h => absurd (h '7' rfl) (by decide)
  have hzero : ∀ c ∈ ['0'], c = '0' := fun _ hc => List.mem_singleton.1 hc
  obtain ⟨hlike, hsame⟩ := sameOutcome_of_tokenize
  obtain ⟨hspaces, hzeros⟩ := hsame ['-'] ['7'] (by simp [IsLegal]) apart
  have hseven : Renders [.integer 7] ['7'] := (lexeme_toDigits 7).renders
  have hspaced : Renders [.additive .minus, .integer 7] ['-', ' ', '7'] :=
    (hseven.gap .space).cons_symbol (.additive .minus) (by decide)
  have hlonger : Renders [.additive .minus, .integer 7] ['-', '0', '7'] :=
    (hseven.zeros hzero hdigit).cons_symbol (.additive .minus) (by decide)
  exact ⟨hspaces [' '] .space, hzeros hdigit ['0'] hzero,
    hlike _ _ _ hspaced.tokenize_eq hlonger.tokenize_eq⟩

end Calculator
