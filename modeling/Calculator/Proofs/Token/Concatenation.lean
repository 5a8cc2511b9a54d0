/-
Texts put one behind the other: the tokens of the whole are those of the parts,
unless a number goes across the cut (`Renders.append`). So a gap may be put in at
such a cut (`Renders.gap`), and zeros before a number (`Renders.zeros`).

A rendering has the gap of each word behind it. It is taken apart here from the
front, with the gap before the word (`renders_cons_iff`), for then the words of
the first text come off one by one with the second behind them.
-/
import Calculator.Proofs.Token.Rendering

namespace Calculator

theorem renders_nil_iff {text : List Char} : Renders [] text ↔ IsGap text := by
  constructor
  · rintro ⟨gap, words, rfl, hgap, hwords⟩
    cases hwords
    rwa [List.append_nil]
  · exact fun hgap => ⟨text, [], (List.append_nil text).symm, hgap, .nil⟩

/-- The first word of a text is followed by no digit if it is an integer, and by the rest. -/
theorem renders_cons_iff {t : Token} {more : List Token} {text : List Char} :
    Renders (t :: more) text ↔ ∃ gap word rest, text = gap ++ (word ++ rest) ∧ IsGap gap ∧
      Lexeme t word ∧ (t.kind = .integer → Stops Char.isDigit rest) ∧ Renders more rest := by
  constructor
  · rintro ⟨gap, words, rfl, hgap, hwords⟩
    cases hwords with
    | @cons t more word gap' rest lexeme spaces apart tail =>
      exact ⟨gap, word, gap' ++ rest, rfl, hgap, lexeme,
        fun hkind => (tail.stops_gap_iff spaces).2 (apart hkind), gap', rest, rfl, spaces, tail⟩
  · rintro ⟨gap, word, rest, rfl, hgap, lexeme, longest, gap', words, rfl, spaces, tail⟩
    have apart := fun hkind => (tail.stops_gap_iff spaces).1 (longest hkind)
    exact ⟨gap, _, rfl, hgap, .cons lexeme spaces apart tail⟩

theorem Lexeme.renders {t : Token} {word : List Char} (h : Lexeme t word) : Renders [t] word :=
  renders_cons_iff.2
    ⟨[], word, [], by simp, .nil, h, fun _ => nofun, renders_nil_iff.2 .nil⟩

theorem Renders.gap {ts : List Token} {gap text : List Char} (h : Renders ts text)
    (hgap : IsGap gap) : Renders ts (gap ++ text) := by
  obtain ⟨gap', words, rfl, hgap', hwords⟩ := h
  refine ⟨gap ++ gap', words, (List.append_assoc ..).symm, fun c hc => ?_, hwords⟩
  exact (List.mem_append.1 hc).elim (hgap c) (hgap' c)

/-- No number goes across the cut between the texts. -/
def Apart (u v : List Char) : Prop :=
  ∀ c ∈ u.getLast?, c.isDigit = true → Stops Char.isDigit v

theorem Apart.of_append {front u v : List Char} (h : Apart (front ++ u) v) : Apart u v := by
  intro c hc
  refine h c ?_
  rw [List.getLast?_append, hc]
  rfl

/-- **Tokens of texts one behind the other.** Unless a number goes across the cut, the two texts
render the tokens of the one and then those of the other. -/
theorem Renders.append {us vs : List Token} {u v : List Char} (hu : Renders us u)
    (hv : Renders vs v) (apart : Apart u v) : Renders (us ++ vs) (u ++ v) := by
  induction us generalizing u with
  | nil => exact hv.gap (renders_nil_iff.1 hu)
  | cons t us ih =>
    obtain ⟨gap, word, rest, rfl, hgap, lexeme, longest, hrest⟩ := renders_cons_iff.1 hu
    have htail : Renders (us ++ vs) (rest ++ v) := ih hrest apart.of_append.of_append
    refine renders_cons_iff.2 ⟨gap, word, rest ++ v, by simp, hgap, lexeme, fun hkind => ?_, htail⟩
    cases rest with
    | cons c rest => exact longest hkind
    | nil =>
      -- The last word is a number, so the cut is behind a digit.
      obtain ⟨-, hne, hrun⟩ | ⟨c, rfl, hc⟩ := lexeme.run_or_symbol
      · refine apart (word.getLast hne) ?_ (hrun _ (List.getLast_mem hne))
        simp [List.getLast?_append, List.getLast?_eq_some_getLast hne]
      · exact absurd hkind (lexeme_of_ofSymbol? hc).2

theorem Renders.cons_symbol {t : Token} {ts : List Token} {c : Char} {text : List Char}
    (h : Renders ts text) (lexeme : Lexeme t [c]) (hkind : t.kind ≠ .integer) :
    Renders (t :: ts) (c :: text) :=
  renders_cons_iff.2 ⟨[], [c], text, rfl, .nil, lexeme, (absurd · hkind), h⟩

theorem Renders.append_symbol {t : Token} {us vs : List Token} {c : Char} {u v : List Char}
    (hu : Renders us u) (lexeme : Lexeme t [c]) (hkind : t.kind ≠ .integer) (hv : Renders vs v) :
    Renders (us ++ t :: vs) (u ++ c :: v) := by
  refine hu.append (hv.cons_symbol lexeme hkind) fun _ _ _ d hd => ?_
  cases hd
  obtain ⟨rfl, -, -⟩ | ⟨c', hc', hsymbol⟩ := lexeme.run_or_symbol
  · exact absurd rfl hkind
  · cases hc'
    exact (isDigit_of_ofSymbol? hsymbol).1

theorem IsGap.stops_digits {gap : List Char} (h : IsGap gap) : Stops Char.isDigit gap := by
  by_cases hne : gap = []
  · exact hne ▸ nofun
  · have hstops : Stops Char.isDigit (gap ++ []) := h.stops hne
    rwa [List.append_nil] at hstops

theorem Renders.zeros {ts : List Token} {zeros text : List Char} (h : Renders ts text)
    (hzeros : ∀ c ∈ zeros, c = '0') (hdigit : ¬Stops Char.isDigit text) :
    Renders ts (zeros ++ text) := by
  cases ts with
  | nil => exact absurd (renders_nil_iff.1 h).stops_digits hdigit
  | cons t more =>
    obtain ⟨gap, word, rest, rfl, hgap, lexeme, longest, hrest⟩ := renders_cons_iff.1 h
    obtain rfl : gap = [] := Decidable.of_not_not fun hne => hdigit (hgap.stops hne)
    obtain ⟨rfl, hne, hrun⟩ | ⟨c, rfl, hc⟩ := lexeme.run_or_symbol
    · have hdigits : ∀ c ∈ zeros ++ word, c.isDigit = true := by
        intro c hc
        obtain hc | hc := List.mem_append.1 hc
        · rw [hzeros c hc]
          rfl
        · exact hrun c hc
      have hlexeme : Lexeme _ (zeros ++ word) := .integer (by simp [hne]) hdigits
      rw [Numeral.value_zeros hzeros] at hlexeme
      exact renders_cons_iff.2 ⟨[], zeros ++ word, rest, by simp, .nil, hlexeme, longest, hrest⟩
    · refine absurd (fun d hd => ?_) hdigit
      cases hd
      exact (isDigit_of_ofSymbol? hc).1

end Calculator
