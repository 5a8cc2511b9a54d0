/-
A text that begins too deep. Opening parentheses and signs are taken one after
another, each of them inside those before it, so the limit is met among them and
what follows is never looked at (`course_of_openers`). The error names a token of
the beginning; where they are all of one kind, that is its kind
(`parse_deep_beginning`).
-/
import Calculator.Proofs.Expr.Nesting
import Calculator.Proofs.Token.Position

namespace Calculator

namespace Cursor

/-! ## Reading a beginning of single characters -/

theorem Reads.of_skipSpaces {c c' d : Cursor} {ts : List Token} (h : Reads c' ts d)
    (heq : c.skipSpaces = c'.skipSpaces) : ∃ d, Reads c ts d := by
  cases h with
  | nil => exact ⟨c, .nil⟩
  | cons next more rest => exact ⟨_, .cons ((next_eq_of_skipSpaces_eq heq).trans next) more rest⟩

theorem next_of_symbol {p : Nat} {c : Char} {t : Token} (h : Token.ofSymbol? c = some t)
    (more : List Char) : next ⟨p, c :: more⟩ = (.ok t, ⟨p + 1, more⟩) := by
  obtain ⟨hd, hs⟩ := isDigit_of_ofSymbol? h
  change next ⟨p, [] ++ c :: more⟩ = _
  rw [next_of_head .nil hs hd, h]
  rfl

/-- The tokens that are single characters of a text, which may have other characters between. -/
def symbols (front : List Char) : List Token := front.filterMap Token.ofSymbol?

theorem reads_symbols {front : List Char}
    (h : ∀ c ∈ front, c = ' ' ∨ ∃ t, Token.ofSymbol? c = some t) (rest : List Char) (p : Nat) :
    ∃ d, Reads ⟨p, front ++ rest⟩ (symbols front) d := by
  induction front generalizing p with
  | nil => exact ⟨_, .nil⟩
  | cons c front ih =>
    rw [List.forall_mem_cons] at h
    obtain ⟨d, hreads⟩ := ih h.2 (p + 1)
    obtain rfl | ⟨t, ht⟩ := h.1
    · refine hreads.of_skipSpaces ?_
      simp [skipSpaces, forward]
      omega
    · rw [symbols, List.filterMap_cons_some ht]
      exact ⟨d, .cons (next_of_symbol ht _) (Token.ofSymbol?_ne_endOfText ht) hreads⟩

end Cursor

namespace Parser

/-! ## Opening parentheses and signs -/

theorem Course.of_operand {limit : Option Nat} {depth : Nat} {p q : Parser} {e : ExpressionError}
    (h : Course limit depth .operand none p (.error e) q) (l : Level) :
    Course limit depth l none p (.error e) q := by
  by_cases hl : l = .operand
  · exact hl ▸ h
  · exact .badFirst hl (h.of_operand l.tighter)
termination_by l.rank
decreasing_by exact Level.rank_tighter_lt hl

theorem Course.of_opener {limit : Option Nat} {depth : Nat} {p q r : Parser} {t : Token}
    {e : ExpressionError} (within : exceeds depth limit = false) (stands : p.lookahead = t)
    (opens : 0 < deepens t) (fetch : p.fetch = (.ok (), q))
    (h : Course limit (depth + deepens t) .operand none q (.error e) r) :
    Course limit depth .operand none p (.error e) r := by
  cases t with
  | additive sign => exact .sign within stands fetch h
  | paren side =>
    cases side with
    | opening => exact .badGroup within stands fetch (h.of_operand .sum)
    | closing => exact absurd opens (by decide)
  | _ => exact absurd opens (by simp [deepens])

/-- **A parser that can take tokens nested in one another beyond the limit stops at one of them,**
or at the one behind them, and says that it is too deep. -/
theorem course_of_openers {limit : Nat} {ts : List Token} :
    ∀ {depth : Nat} {p q : Parser}, Eats p ts q → (∀ t ∈ ts, 0 < deepens t) →
      limit < depth + deepensBy ts → ∃ t ∈ ts ++ [q.lookahead], ∃ r,
        Course (some limit) depth .operand none p (.error (.grammatical (.tooDeep t.kind))) r := by
  induction ts with
  | nil =>
    intro depth p q heats _ deep
    cases heats
    exact ⟨p.lookahead, by simp, p, .tooDeep (exceeds_some_iff.2 deep)⟩
  | cons t ts ih =>
    intro depth p q heats opens deep
    rw [List.forall_mem_cons] at opens
    obtain ⟨stands, -, r, hfetch, heats⟩ := heats.of_cons
    by_cases exceeded : exceeds depth (some limit) = true
    · exact ⟨p.lookahead, by simp [stands], p, .tooDeep exceeded⟩
    rw [Bool.not_eq_true] at exceeded
    rw [deepensBy_cons, ← Nat.add_assoc] at deep
    obtain ⟨u, hu, s, hc⟩ := ih heats opens.2 deep
    exact ⟨u, List.mem_cons_of_mem _ hu, s, .of_opener exceeded stands opens.1 hfetch hc⟩

end Parser

open Cursor Calculator.Parser

/-! ## Whole texts -/

/-- What opens an operand around those behind it. -/
def Opens (c : Char) : Prop := c = '(' ∨ c = '+' ∨ c = '-'

theorem Opens.exists_token {c : Char} (h : Opens c) :
    ∃ t, Token.ofSymbol? c = some t ∧ 0 < deepens t ∧ deepens t = deepening [c] := by
  obtain rfl | rfl | rfl := h <;> exact ⟨_, rfl, by decide, by decide⟩

theorem symbols_openers {front : List Char} (h : ∀ c ∈ front, c = ' ' ∨ Opens c) :
    (∀ t ∈ symbols front, 0 < deepens t) ∧ deepensBy (symbols front) = deepening front := by
  induction front with
  | nil => exact ⟨nofun, rfl⟩
  | cons c front ih =>
    rw [List.forall_mem_cons] at h
    obtain ⟨hpos, hsum⟩ := ih h.2
    have hcons : deepening (c :: front) = deepening [c] + deepening front :=
      deepening_append [c] front
    obtain rfl | hc := h.1
    · rw [hcons]
      exact ⟨hpos, hsum.trans (Nat.zero_add _).symm⟩
    · obtain ⟨t, ht, hopens, hdeepens⟩ := hc.exists_token
      rw [symbols, List.filterMap_cons_some ht, hcons, deepensBy_cons, hdeepens]
      exact ⟨List.forall_mem_cons.2 ⟨hopens, hpos⟩, congrArg _ hsum⟩

/-- A text that begins with openers, with any spaces between them, that are nested beyond the limit
has the depth error of one of them, whatever follows. -/
theorem parse_of_openers {front : List Char} (h : ∀ c ∈ front, c = ' ' ∨ Opens c)
    (deep : depthLimit + groupDepth < deepening front) (strict : Bool) (rest : List Char) :
    ∃ t ∈ symbols front,
      parse strict (front ++ rest) = .error (.grammatical (.tooDeep t.kind)) := by
  obtain ⟨hopens, hsum⟩ := symbols_openers h
  obtain ⟨d, hreads⟩ := reads_symbols
    (fun c hc => (h c hc).imp_right fun hc => ⟨_, hc.exists_token.choose_spec.1⟩) rest 0
  -- The parser takes all of them but the last, which it must have fetched by then.
  generalize symbols front = ts at *
  obtain rfl | ⟨ts, last, rfl⟩ := ts.eq_nil_or_concat
  · exact absurd (hsum ▸ deep) (Nat.not_lt_zero _)
  rw [List.concat_eq_append] at *
  obtain ⟨c, hbefore, hlast⟩ := hreads.of_append
  cases hlast with
  | cons next _ _ =>
    obtain ⟨p, q, hp, heats, hq⟩ := exists_eats strict hbefore (congrArg Prod.fst next)
    have hlookahead : q.lookahead = last := by
      rw [hq] at next
      exact Except.ok.inj (congrArg Prod.fst next)
    have hone : deepens last ≤ groupDepth := by
      unfold deepens
      split <;> decide
    have hlastOnly : deepensBy [last] = deepens last := Nat.add_zero _
    rw [deepensBy_append, hlastOnly] at hsum
    have beyond : depthLimit < 0 + deepensBy ts := by omega
    obtain ⟨t, ht, r, hc⟩ := course_of_openers heats (fun t ht => hopens t (by simp [ht])) beyond
    rw [hlookahead] at ht
    exact ⟨t, ht, parseWithin_tooDeep_iff.2 ⟨p, r, hp, hc.of_operand .sum⟩⟩

theorem kind_of_mem_symbols {front : List Char} {kind : TokenKind}
    (h : ∀ c ∈ front, ∀ t, Token.ofSymbol? c = some t → t.kind = kind) {t : Token}
    (ht : t ∈ symbols front) : t.kind = kind := by
  obtain ⟨c, hc, heq⟩ := List.mem_filterMap.1 ht
  exact h c hc t heq

/-- **A beginning that is too deep decides the outcome,** strictly and loosely, whatever follows it:
seven thousand opening parentheses or more, or thirty thousand signs or more, with any spaces
between them. -/
theorem parse_deep_beginning (strict : Bool) (front rest : List Char) :
    ((∀ c ∈ front, c = ' ' ∨ c = '(') → 7000 ≤ front.count '(' →
      ∃ g : GrammarError, parse strict (front ++ rest) = .error (.grammatical g) ∧
        g.expected = "nesting within depth limit" ∧ g.found = "PAREN") ∧
    ((∀ c ∈ front, c = ' ' ∨ c = '+' ∨ c = '-') → 30000 ≤ front.count '+' + front.count '-' →
      ∃ g : GrammarError, parse strict (front ++ rest) = .error (.grammatical g) ∧
        g.expected = "nesting within depth limit" ∧ g.found = "ADDITIVE_OP") := by
  constructor
  · intro h hcount
    obtain ⟨t, ht, hparse⟩ := parse_of_openers (fun c hc => (h c hc).imp_right .inl)
      (by simp only [depthLimit, groupDepth, deepening]; omega) strict rest
    have hkind : t.kind = .paren := by
      refine kind_of_mem_symbols (fun c hc t ht => ?_) ht
      obtain rfl | rfl := h c hc <;> cases ht
      rfl
    exact ⟨_, hparse, rfl, by rw [hkind]; rfl⟩
  · intro h hcount
    obtain ⟨t, ht, hparse⟩ := parse_of_openers (fun c hc => (h c hc).imp_right .inr)
      (by simp only [depthLimit, groupDepth, deepening]; omega) strict rest
    have hkind : t.kind = .additive := by
      refine kind_of_mem_symbols (fun c hc t ht => ?_) ht
      obtain rfl | rfl | rfl := h c hc <;> cases ht <;> rfl
    exact ⟨_, hparse, rfl, by rw [hkind]; rfl⟩

/-- Seven thousand opening parentheses before an illegal character, and thirty thousand signs before
a parenthesis that closes nothing. -/
theorem parse_deep_beginning_unread :
    (∃ g : GrammarError,
      parse true (List.replicate 7000 '(' ++ ['#']) = .error (.grammatical g) ∧
        g.expected = "nesting within depth limit" ∧ g.found = "PAREN") ∧
    ∃ g : GrammarError,
      parse false (List.replicate 30000 '-' ++ [')']) = .error (.grammatical g) ∧
        g.expected = "nesting within depth limit" ∧ g.found = "ADDITIVE_OP" :=
  ⟨(parse_deep_beginning true (List.replicate 7000 '(') ['#']).1
      (fun _ hc => .inr (List.eq_of_mem_replicate hc))
      (Nat.le_of_eq List.count_replicate_self.symm),
    (parse_deep_beginning false (List.replicate 30000 '-') [')']).2
      (fun _ hc => .inr (.inr (List.eq_of_mem_replicate hc)))
      (Nat.le_add_left_of_le (Nat.le_of_eq List.count_replicate_self.symm))⟩

end Calculator
