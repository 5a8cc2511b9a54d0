/-
Which texts are parsed, and as what. A strict parser accepts the sentences of the
strict grammar (`parse_strict_iff_derives`), a loose one the texts that begin with
a sentence of the loose grammar which the next token does not continue
(`parse_loose_iff_splits`). Neither has a choice of the tree, since the parser
that follows every derivation has one course only.
-/
import Calculator.Proofs.Expr.Depth
import Calculator.Proofs.Expr.Grammar
import Calculator.Proofs.Token.Rendering

namespace Calculator

open Cursor Calculator.Parser

namespace Parser

theorem treeWithin_eq_ok_iff {limit : Option Nat} {p q : Parser} {e : Expr} :
    p.treeWithin limit = (.ok e, q) ↔
      Course limit 0 .sum none p (.ok e) q ∧ (q.strict = true → q.lookahead = .endOfText) := by
  rw [← expression_eq_iff]
  unfold treeWithin finish
  constructor
  · intro h
    split at h
    next e' q' hexpr =>
      split at h
      next => cases h
      next hfree =>
        cases h
        exact ⟨hexpr, fun hs => Decidable.of_not_not fun hl => hfree ⟨hs, hl⟩⟩
    next => cases h
  · rintro ⟨hexpr, hfree⟩
    rw [hexpr]
    exact if_neg fun ⟨hs, hl⟩ => hl (hfree hs)

/-- A parser that answers with a tree has taken the tokens of one expression, which the token behind
them does not continue; in strict parsing that is the end. -/
theorem exists_derives_of_tree_eq_ok {limit : Option Nat} {p q : Parser} {e : Expr}
    (h : p.treeWithin limit = (.ok e, q)) :
    ∃ ts, Eats p ts q ∧ Derives (Closes p.strict) .sum ts e ∧ EndsLevel .sum q.lookahead ∧
      (p.strict = true → q.lookahead = .endOfText) := by
  obtain ⟨hc, hfree⟩ := treeWithin_eq_ok_iff.1 h
  obtain ⟨hends, ts, heats, hderives⟩ := hc.sound e rfl nofun
  rw [heats.strict_eq] at hfree
  exact ⟨ts, heats, hderives, hends, hfree⟩

end Parser

/-- The parser of the text does not stop with the depth error under this limit. -/
def ParsesWithin (limit : Option Nat) (strict : Bool) (text : List Char) : Prop :=
  ∀ kind, parseWithin limit strict text ≠ .error (.grammatical (.tooDeep kind))

/-- The parser of the text does not stop with the depth error. -/
def ParsesShallowly (strict : Bool) (text : List Char) : Prop :=
  ∀ kind, parse strict text ≠ .error (.grammatical (.tooDeep kind))

theorem parseWithin_eq_ok_iff {limit : Option Nat} {strict : Bool} {text : List Char} {e : Expr} :
    parseWithin limit strict text = .ok e ↔
      ∃ p q, ofText strict text = .ok p ∧ p.treeWithin limit = (.ok e, q) := by
  unfold parseWithin
  constructor
  · intro h
    split at h
    next p hp => exact ⟨p, _, hp, Prod.ext h rfl⟩
    next => cases h
  · rintro ⟨p, q, hp, htree⟩
    rw [hp]
    exact congrArg Prod.fst htree

theorem parse_eq_ok_iff {strict : Bool} {text : List Char} {e : Expr} :
    parse strict text = .ok e ↔ ∃ p q, ofText strict text = .ok p ∧ p.tree = (.ok e, q) :=
  parseWithin_eq_ok_iff

/-- The depth error is the outcome of the loosest level, and of nothing that is asked after it. -/
theorem parseWithin_tooDeep_iff {limit : Option Nat} {strict : Bool} {text : List Char}
    {kind : TokenKind} :
    parseWithin limit strict text = .error (.grammatical (.tooDeep kind)) ↔
      ∃ p q, ofText strict text = .ok p ∧
        Course limit 0 .sum none p (.error (.grammatical (.tooDeep kind))) q := by
  simp only [← expression_eq_iff]
  unfold parseWithin treeWithin finish
  constructor
  · intro h
    split at h
    next p hp =>
      split at h
      next e q hexpr =>
        split at h <;> cases h
      next e q hexpr =>
        cases h
        exact ⟨p, q, hp, hexpr⟩
    next => cases h
  · rintro ⟨p, q, hp, hexpr⟩
    simp only [hp, hexpr]

/-- A text too short to open that many groups is parsed within the limit. -/
theorem parsesShallowly_of_length_le {strict : Bool} {text : List Char}
    (h : groupDepth * text.length ≤ depthLimit) : ParsesShallowly strict text := by
  intro kind hparse
  obtain ⟨p, q, hp, hc⟩ := parseWithin_tooDeep_iff.1 hparse
  have hlen := remaining_ofText_le hp
  have hover := exceeds_some_iff.1 (hc.exceeds_of_isTooDeep ⟨kind, rfl⟩)
  have := Nat.mul_le_mul_left groupDepth hlen
  omega

theorem treeWithin_eq_ok_of_course {limit : Option Nat} {strict : Bool} {text : List Char}
    {p q : Parser} {e : Expr} (shallow : ParsesWithin limit strict text)
    (hp : ofText strict text = .ok p) (h : Course none 0 .sum none p (.ok e) q)
    (hfree : q.strict = true → q.lookahead = .endOfText) : p.treeWithin limit = (.ok e, q) := by
  obtain hc | ⟨o, r, hc, kind, rfl⟩ := h.limited limit
  · exact treeWithin_eq_ok_iff.2 ⟨hc, hfree⟩
  · exact absurd (parseWithin_tooDeep_iff.2 ⟨p, r, hp, hc⟩) (shallow kind)

/-! ## What an accepted text begins with -/

theorem exists_derives_of_tree {limit : Option Nat} {strict : Bool} {text : List Char}
    {p q : Parser} {e : Expr} (hp : ofText strict text = .ok p)
    (h : p.treeWithin limit = (.ok e, q)) :
    ∃ ts d, (start text).Reads ts d ∧ d.next.1 = .ok q.lookahead ∧
      Derives (Closes strict) .sum ts e ∧ EndsLevel .sum q.lookahead ∧
      (strict = true → q.lookahead = .endOfText) := by
  obtain ⟨ts, heats, hderives, hends, hfree⟩ := exists_derives_of_tree_eq_ok h
  obtain ⟨hstrict, hat, -⟩ := ofText_ok hp
  obtain ⟨d, hreads, hq⟩ := reads_of_eats hat heats
  rw [hstrict] at hderives hfree
  exact ⟨ts, d, hreads, hq.next_eq, hderives, hends, hfree⟩

theorem isLegal_of_parse_strict {text : List Char} {e : Expr} (h : parse true text = .ok e) :
    ∀ c ∈ text, IsLegal c := by
  obtain ⟨p, q, hp, htree⟩ := parse_eq_ok_iff.1 h
  obtain ⟨ts, d, hreads, hd, -, -, hend⟩ := exists_derives_of_tree hp htree
  rw [hend rfl] at hd
  exact isLegal_of_reads hreads hd

/-- Tokens that derive a tree are parsed as that tree, wherever they begin a text. -/
theorem exists_course_of_derives {strict : Bool} {text : List Char} {ts : List Token} {d : Cursor}
    {t : Token} {e : Expr} (hreads : (start text).Reads ts d) (hd : d.next.1 = .ok t)
    (hderives : Derives (Closes strict) .sum ts e) (hends : EndsLevel .sum t) :
    ∃ p q, ofText strict text = .ok p ∧ Eats p ts q ∧ q.lookahead = t ∧
      Course none 0 .sum none p (.ok e) q := by
  obtain ⟨p, q, hp, heats, hq⟩ := exists_eats strict hreads hd
  have hlook : q.lookahead = t := Except.ok.inj (hq.next_eq.symm.trans hd)
  exact ⟨p, q, hp, heats, hlook,
    course_of_derives hderives (ofText_ok hp).1 heats (by rwa [hlook])⟩

/-! ## Strict parsing -/

/-- A token list has one tree at most: the parser of a text that renders it follows both
derivations. -/
theorem derives_unique {strict : Bool} {ts : List Token} {e e' : Expr}
    (h : Derives (Closes strict) .sum ts e) (h' : Derives (Closes strict) .sum ts e') : e = e' := by
  obtain ⟨text, hrenders⟩ := exists_renders h.endOfText_notMem
  obtain ⟨d, hreads, hd⟩ := reads_iff_renders.2 hrenders
  have hends : EndsLevel .sum .endOfText := endsLevel_of_operator? rfl
  obtain ⟨p, q, hp, heats, -, hc⟩ := exists_course_of_derives hreads hd h hends
  obtain ⟨p', q', hp', heats', -, hc'⟩ := exists_course_of_derives hreads hd h' hends
  cases hp.symm.trans hp'
  exact Except.ok.inj (hc.det hc').1

/-- **A strict parser accepts exactly the sentences of the grammar, as exactly their trees.** And
a list of tokens is a sentence with one tree at most. -/
theorem parse_strict_iff_derives {text : List Char} (shallow : ParsesShallowly true text) :
    (∀ e, parse true text = .ok e ↔
      ∃ ts, tokenize text = .ok (ts ++ [.endOfText]) ∧ DerivesStrictly ts e) ∧
    ∀ ts e e', DerivesStrictly ts e → DerivesStrictly ts e' → e = e' := by
  refine ⟨fun e => ?_, fun ts e e' h h' => @derives_unique true ts e e' h h'⟩
  rw [parse_eq_ok_iff]
  constructor
  · rintro ⟨p, q, hp, htree⟩
    obtain ⟨ts, d, hreads, hd, hderives, -, hend⟩ := exists_derives_of_tree hp htree
    rw [hend rfl] at hd
    exact ⟨ts, tokenize_eq_ok_iff.2 ⟨d, hreads, hd⟩, hderives⟩
  · rintro ⟨ts, htok, (hderives : Derives (Closes true) .sum ts e)⟩
    obtain ⟨d, hreads, hd⟩ := tokenize_eq_ok_iff.1 htok
    obtain ⟨p, q, hp, -, hq, hc⟩ :=
      exists_course_of_derives hreads hd hderives (endsLevel_of_operator? rfl)
    exact ⟨p, q, hp, treeWithin_eq_ok_of_course shallow hp hc fun _ => hq⟩

/-- `2^3` is within the limit, and is a power. -/
theorem parse_strict_iff_derives_power :
    ParsesShallowly true ['2', '^', '3'] ∧
      parse true ['2', '^', '3'] = .ok (.binary (.number 2) .power (.number 3)) := by
  have shallow : ParsesShallowly true ['2', '^', '3'] := parsesShallowly_of_length_le (by decide)
  have hpower : RendersWords [.power, .integer 3] ['^', '3'] :=
    .cons_symbol .power (by decide) .nil
      (.cons (lexeme_toDigits 3) .nil (fun _ => (absurd · not_startsWithInteger_nil)) .nil)
  have hwords : RendersWords [.integer 2, .power, .integer 3] ['2', '^', '3'] :=
    .cons (lexeme_toDigits 2) .nil
      (fun _ h => absurd h (not_startsWithInteger_cons (by decide))) hpower
  have htok := tokenize_eq_ok_iff.2 (reads_iff_renders.2 ⟨[], _, rfl, .nil, hwords⟩)
  have hderives : Derives ClosesStrictly .power
      ([.integer 2] ++ Operator.power.token :: [.integer 3])
      (.binary (.number 2) .power (.number 3)) :=
    .join rfl (.of_operand (.number 2) _) (.number 3)
  exact ⟨shallow, ((parse_strict_iff_derives shallow).1 _).2
    ⟨_, htok, .single (by decide) (.single (by decide) hderives)⟩⟩

/-! ## Loose parsing -/

/-- The tokens are an expression of the loose grammar, then a token that is no operator, and
then any others. -/
structure Splits (tokens expr : List Token) (next : Token) (others : List Token) (e : Expr) :
    Prop where
  whole : tokens = expr ++ next :: others
  derives : DerivesLoosely expr e
  stops : next.kind ∉ [.additive, .multiplicative, .power]

theorem endsLevel_sum_iff {t : Token} :
    EndsLevel .sum t ↔ t.kind ∉ [.additive, .multiplicative, .power] := by
  constructor
  · intro h hkind
    cases t with
    | additive sign => exact absurd (h (.additive sign) rfl) (by simp [Operator.level])
    | multiplicative scaling =>
      exact absurd (h (.multiplicative scaling) rfl) (by simp [Operator.level, Level.rank])
    | power => exact absurd (h .power rfl) (by simp [Operator.level, Level.rank])
    | _ => simp [Token.kind] at hkind
  · intro h
    apply endsLevel_of_operator?
    cases t with
    | additive _ | multiplicative _ | power => simp [Token.kind] at h
    | _ => rfl

/-- A split is what the parser of the text does: it takes the expression, and stops in front of
the next token. -/
theorem Splits.course {text : List Char} {tokens expr others : List Token} {next : Token}
    {e : Expr} (htok : tokenize text = .ok tokens) (h : Splits tokens expr next others e) :
    ∃ p q, ofText false text = .ok p ∧ Eats p expr q ∧ q.lookahead = next ∧
      Course none 0 .sum none p (.ok e) q := by
  obtain ⟨us, f, hreads, ⟨hf, htok'⟩ | ⟨_, _, htok'⟩⟩ := reads_tokenize text
  · cases htok.symm.trans htok'
    obtain ⟨d, hreads', hd⟩ := hreads.exists_of_append hf h.whole
    have hderives : Derives (Closes false) .sum expr e := h.derives
    exact exists_course_of_derives hreads' hd hderives (endsLevel_sum_iff.2 h.stops)
  · cases htok.symm.trans htok'

theorem Splits.unique {text : List Char} {tokens expr expr' others others' : List Token}
    {next next' : Token} {e e' : Expr} (htok : tokenize text = .ok tokens)
    (h : Splits tokens expr next others e) (h' : Splits tokens expr' next' others' e') :
    expr = expr' ∧ next = next' ∧ others = others' ∧ e = e' := by
  obtain ⟨p, q, hp, heats, rfl, hc⟩ := h.course htok
  obtain ⟨p', q', hp', heats', rfl, hc'⟩ := h'.course htok
  cases hp.symm.trans hp'
  obtain ⟨heq, rfl⟩ := hc.det hc'
  obtain rfl := heats.unique_of_ofText hp heats'
  have hwhole := h.whole
  rw [h'.whole] at hwhole
  obtain ⟨-, hothers⟩ := List.cons.inj (List.append_cancel_left hwhole)
  exact ⟨rfl, rfl, hothers.symm, Except.ok.inj heq⟩

/-- **A loose parser accepts exactly the texts that begin with an expression.** A text without
illegal characters is parsed exactly if its tokens split into a sentence of the loose grammar and
something that begins with no operator. It splits in one way at most; the parser takes the tokens
of the sentence one after another, has fetched no more than these and the token behind them, and
is left with that token as its lookahead. -/
theorem parse_loose_iff_splits {text : List Char} (legal : ∀ c ∈ text, IsLegal c)
    (shallow : ParsesShallowly false text) :
    ∃ tokens, tokenize text = .ok tokens ∧
      (∀ e, parse false text = .ok e ↔ ∃ expr next others, Splits tokens expr next others e) ∧
      (∀ expr next others e expr' next' others' e', Splits tokens expr next others e →
        Splits tokens expr' next' others' e' →
          expr = expr' ∧ next = next' ∧ others = others' ∧ e = e') ∧
      ∀ expr next others e, Splits tokens expr next others e →
        ∃ p q, ofText false text = .ok p ∧ p.tree = (.ok e, q) ∧ q.lookahead = next ∧
          Eats p expr q ∧ q.fetched.reverse.map (·.token) = expr ++ [next] := by
  obtain ⟨us, f, hreads, hf⟩ := exists_reads_of_legal legal
  have htok : tokenize text = .ok (us ++ [.endOfText]) := tokenize_eq_ok_iff.2 ⟨f, hreads, hf⟩
  have haccept : ∀ {expr next others e}, Splits (us ++ [.endOfText]) expr next others e →
      ∃ p q, ofText false text = .ok p ∧ Eats p expr q ∧ q.lookahead = next ∧
        p.tree = (.ok e, q) := by
    intro expr next others e h
    obtain ⟨p, q, hp, heats, hq, hc⟩ := h.course htok
    have hloose : q.strict = false := heats.strict_eq.trans (ofText_ok hp).1
    exact ⟨p, q, hp, heats, hq, treeWithin_eq_ok_of_course shallow hp hc fun hs => by simp [hloose] at hs⟩
  refine ⟨us ++ [.endOfText], htok, fun e => ⟨fun h => ?_, fun h => ?_⟩,
    fun _ _ _ _ _ _ _ _ h h' => h.unique htok h', fun expr next others e h => ?_⟩
  · obtain ⟨p, q, hp, htree⟩ := parse_eq_ok_iff.1 h
    obtain ⟨ts, d, hreads', hd, hderives, hends, -⟩ := exists_derives_of_tree hp htree
    obtain ⟨others, hwhole⟩ := hreads.exists_rest hf hreads' hd
    exact ⟨ts, q.lookahead, others, hwhole, hderives, endsLevel_sum_iff.1 hends⟩
  · obtain ⟨expr, next, others, h⟩ := h
    obtain ⟨p, q, hp, -, -, htree⟩ := haccept h
    exact parse_eq_ok_iff.2 ⟨p, q, hp, htree⟩
  · obtain ⟨p, q, hp, heats, rfl, htree⟩ := haccept h
    exact ⟨p, q, hp, htree, rfl, heats, heats.fetched_of_ofText hp⟩

/-- `(1(2` is the group of `1`, closed by the parenthesis that would open another, and then `2`. -/
theorem parse_loose_iff_splits_reopened :
    (∀ c ∈ ['(', '1', '(', '2'], IsLegal c) ∧ ParsesShallowly false ['(', '1', '(', '2'] ∧
      parse false ['(', '1', '(', '2'] = .ok (.number 1) := by
  have legal : ∀ c ∈ ['(', '1', '(', '2'], IsLegal c := by simp [IsLegal]
  have shallow : ParsesShallowly false ['(', '1', '(', '2'] :=
    parsesShallowly_of_length_le (by decide)
  have hnext : RendersWords [.paren .opening, .integer 2] ['(', '2'] :=
    .cons_symbol (.paren .opening) (by decide) .nil
      (.cons (lexeme_toDigits 2) .nil (fun _ => (absurd · not_startsWithInteger_nil)) .nil)
  have hinner : RendersWords [.integer 1, .paren .opening, .integer 2] ['1', '(', '2'] :=
    .cons (lexeme_toDigits 1) .nil
      (fun _ h => absurd h (not_startsWithInteger_cons (by decide))) hnext
  have hwords : RendersWords [.paren .opening, .integer 1, .paren .opening, .integer 2]
      ['(', '1', '(', '2'] := .cons_symbol (.paren .opening) (by decide) .nil hinner
  have htok := tokenize_eq_ok_iff.2 (reads_iff_renders.2 ⟨[], _, rfl, .nil, hwords⟩)
  have hgroup : Derives ClosesLoosely .operand [.paren .opening, .integer 1, .paren .opening]
      (.number 1) := .group (.of_operand (.number 1) _) trivial
  obtain ⟨tokens, htok', haccept, -, -⟩ := parse_loose_iff_splits legal shallow
  cases htok.symm.trans htok'
  exact ⟨legal, shallow, (haccept _).2
    ⟨_, .integer 2, [.endOfText], rfl, hgroup.of_operand _, by decide⟩⟩

end Calculator
