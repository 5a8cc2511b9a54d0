/-
The text of an expression is parsed as that expression (`parse_text`), and with a
minus sign before its magnitude in place of each negative literal if there are
any (`parse_of_renders_words`).

The words of the text are a group for each sign and operator, so its parser is
followed from group to group, by induction on the expression. The limit on
nesting is met on the way down, which is why the course is built under the limit
and not taken from the grammar.
-/
import Calculator.Proofs.Expr.Acceptance
import Calculator.Proofs.Expr.Spelling

namespace Calculator

open Calculator.Parser

/-- How deep the text of an expression nests, as the parser counts. -/
def Expr.nesting : Expr → Nat
  | .number _ => 0
  | .unary _ operand => groupDepth + signDepth + operand.nesting
  | .binary left _ right => groupDepth + max left.nesting right.nesting

/-- How deep the text of an expression nests that may have negative literals: the minus sign of
one is a sign like any other, but no group. -/
def Expr.textNesting : Expr → Nat
  | .number value => if value < 0 then signDepth else 0
  | .unary _ operand => groupDepth + signDepth + operand.textNesting
  | .binary left _ right => groupDepth + max left.textNesting right.textNesting

theorem Expr.textNesting_eq_nesting {e : Expr} (natural : e.IsNatural) :
    e.textNesting = e.nesting := by
  induction e with
  | number value => exact if_neg (Int.not_lt.2 natural)
  | unary sign operand ih => simp only [textNesting, nesting, ih natural]
  | binary left op right ih₁ ih₂ =>
    simp only [textNesting, nesting, ih₁ natural.1, ih₂ natural.2]

namespace Parser

/-! ## The parser on the words of an expression -/

/-- What a level parses, a looser level parses too, if no operator follows that it joins. -/
theorem Course.widen {limit : Option Nat} {depth : Nat} {l l' : Level} {p q : Parser} {e : Expr}
    (h : Course limit depth l none p (.ok e) q) (hl : l.rank ≤ l'.rank)
    (hq : EndsLevel l' q.lookahead) : Course limit depth l' none p (.ok e) q := by
  by_cases hne : l = l'
  · exact hne ▸ h
  · obtain ⟨joins, hl⟩ := Level.rank_le_tighter hl hne
    exact .first joins (h.widen hl hq.tighter) (.stop hq.operator?_eq_none)
termination_by l'.rank
decreasing_by exact Level.rank_tighter_lt joins

/-- The words of an expression are taken as one operand, unless they nest too deep. -/
theorem course_words {limit : Option Nat} {e : Expr} :
    ∀ {depth : Nat} {p q : Parser}, Eats p e.words q →
      exceeds (depth + e.textNesting) limit = false →
        Course limit depth .operand none p (.ok e.asRead) q := by
  induction e with
  | number value =>
    intro depth p q heats shallow
    have magnitude : ∀ {depth p}, Eats p [.integer value.natAbs] q →
        exceeds depth limit = false →
          Course limit depth .operand none p (.ok (.number value.natAbs)) q := by
      intro depth p heats shallow
      obtain ⟨stands, -, r, hfetch, hnil⟩ := heats.of_cons
      cases hnil
      exact .number shallow stands hfetch
    rw [Expr.words, Expr.literalWords] at heats
    rw [Expr.textNesting] at shallow
    rw [Expr.asRead, Expr.literalAsRead]
    by_cases hvalue : value < 0
    · rw [if_pos hvalue] at heats shallow ⊢
      obtain ⟨signs, -, r, hsign, heats⟩ := heats.of_cons
      exact .sign (exceeds_of_le (Nat.le_add_right _ _) shallow) signs hsign
        (magnitude heats shallow)
    · rw [if_neg hvalue] at heats shallow ⊢
      exact magnitude heats shallow
  | unary sign operand ih =>
    intro depth p q heats shallow
    simp only [Expr.textNesting] at shallow
    obtain ⟨opens, -, r, hopen, heats⟩ := heats.of_cons
    obtain ⟨signs, -, s, hsign, heats⟩ := heats.of_cons
    obtain ⟨t, hoperand, hlast⟩ := heats.of_append
    obtain ⟨closes, hclose⟩ := close_of_eats hlast (closes_closing _)
    have inner : Course limit (depth + groupDepth) .operand none r
        (.ok (.unary sign operand.asRead)) t :=
      .sign (exceeds_of_le (by omega) shallow) signs hsign
        (ih hoperand (exceeds_of_le (by omega) shallow))
    have ends : EndsLevel .sum t.lookahead := endsLevel_of_operator? (by rw [closes]; rfl)
    exact .group (exceeds_of_le (by omega) shallow) opens hopen
      (inner.widen (Level.rank_le_sum _) ends) hclose
  | binary left op right ih₁ ih₂ =>
    intro depth p q heats shallow
    simp only [Expr.textNesting] at shallow
    obtain ⟨opens, -, r, hopen, heats⟩ := heats.of_cons
    obtain ⟨s, hleft, heats⟩ := heats.of_append
    obtain ⟨operator, -, t, hop, heats⟩ := heats.of_cons
    obtain ⟨u, hright, hlast⟩ := heats.of_append
    obtain ⟨closes, hclose⟩ := close_of_eats hlast (closes_closing _)
    have ends : ∀ l, EndsLevel l u.lookahead := fun l =>
      endsLevel_of_operator? (by rw [closes]; rfl)
    -- Each operand is a group or a number, so it is one at whatever level its operator joins.
    have first : Course limit (depth + groupDepth) op.level.tighter none r (.ok left.asRead) s :=
      (ih₁ hleft (exceeds_of_le (by omega) shallow)).widen (Nat.zero_le _)
        (by rw [operator]; exact endsLevel_token)
    have second : Course limit (depth + groupDepth) op.level.tighter none t (.ok right.asRead) u :=
      (ih₂ hright (exceeds_of_le (by omega) shallow)).widen (Nat.zero_le _) (ends _)
    have stands : op.level.operator? s.lookahead = some op :=
      Level.operator?_eq_some_iff.2 ⟨operator, rfl⟩
    have inner : Course limit (depth + groupDepth) op.level none r
        (.ok (.binary left.asRead op right.asRead)) u :=
      .first op.level_ne_operand first (.join stands hop second (.stop (ends _).operator?_eq_none))
    exact .group (exceeds_of_le (by omega) shallow) opens hopen
      (inner.widen (Level.rank_le_sum _) (ends _)) hclose

end Parser

/-! ## The round trip -/

theorem Derives.isNatural {closes : Paren → Prop} {l : Level} {tokens : List Token} {e : Expr}
    (d : Derives closes l tokens e) : e.IsNatural := by
  induction d with
  | number n => exact Int.natCast_nonneg n
  | sign _ _ ih => exact ih
  | group _ _ ih => exact ih
  | single _ _ ih => exact ih
  | join _ _ _ ih₁ ih₂ => exact ⟨ih₁, ih₂⟩

theorem isNatural_of_parse {limit : Option Nat} {strict : Bool} {text : List Char} {e : Expr}
    (h : parseWithin limit strict text = .ok e) : e.IsNatural := by
  obtain ⟨p, q, hp, htree⟩ := parseWithin_eq_ok_iff.1 h
  obtain ⟨ts, d, -, -, hderives, -, -⟩ := exists_derives_of_tree hp htree
  exact hderives.isNatural

section

variable {limit : Option Nat} {strict : Bool} {text : List Char} {e : Expr}

/-- A text that renders the words of an expression is parsed as what these are read as, unless
they nest too deep. -/
theorem parse_of_renders_words (shallow : exceeds e.textNesting limit = false)
    (h : Renders e.words text) : parseWithin limit strict text = .ok e.asRead := by
  obtain ⟨d, hreads, hd⟩ := reads_iff_renders.2 h
  obtain ⟨p, q, hp, heats, hq⟩ := exists_eats strict hreads hd
  have hlast : q.lookahead = .endOfText := Except.ok.inj (hq.next_eq.symm.trans hd)
  have hwithin : exceeds (0 + e.textNesting) limit = false := by rwa [Nat.zero_add]
  have ends : EndsLevel .sum q.lookahead := by
    rw [hlast]
    exact endsLevel_of_operator? rfl
  have hc : Course limit 0 .sum none p (.ok e.asRead) q :=
    (course_words heats hwithin).widen (Level.rank_le_sum _) ends
  exact parseWithin_eq_ok_iff.2 ⟨p, q, hp, treeWithin_eq_ok_iff.2 ⟨hc, fun _ => hlast⟩⟩

theorem parse_of_renders (natural : e.IsNatural) (shallow : exceeds e.nesting limit = false)
    (h : Renders e.tokens text) : parseWithin limit strict text = .ok e := by
  rw [← Expr.textNesting_eq_nesting natural] at shallow
  rw [← Expr.words_eq_tokens natural] at h
  rw [parse_of_renders_words shallow h, Expr.asRead_eq_self natural]

end

/-- **Parsing undoes printing.** An expression whose literals are natural numbers that are written
out is what its text is parsed as, strictly and loosely, unless the text nests too deep. Every
parsed expression is such a one, as far as its literals are written out. This holds under any limit
on nesting, and without one. -/
theorem parse_text {e : Expr} (short : e.IsShort) {limit : Option Nat}
    (shallow : exceeds e.nesting limit = false) :
    (e.IsNatural → ∀ strict, parseWithin limit strict e.text.toList = .ok e) ∧
    ∀ strict text, parseWithin limit strict text = .ok e →
      e.IsNatural ∧ ∀ strict', parseWithin limit strict' e.text.toList = .ok e := by
  have hprint : e.IsNatural → ∀ strict, parseWithin limit strict e.text.toList = .ok e :=
    fun natural _ => parse_of_renders natural shallow (Expr.renders_text natural short)
  refine ⟨hprint, fun strict text h => ?_⟩
  have natural := isNatural_of_parse h
  exact ⟨natural, hprint natural⟩

/-- The text `((2 ^ 3) - 4)` is parsed as what it is the text of, and so as what was parsed. -/
theorem parse_text_difference :
    ∃ e : Expr, e.IsShort ∧ e.nesting ≤ depthLimit ∧ e.IsNatural ∧
      parse true e.text.toList = .ok e ∧ parse false e.text.toList = .ok e := by
  let e : Expr := .binary (.binary (.number 2) .power (.number 3)) (.additive .minus) (.number 4)
  have shallow : exceeds e.nesting (some depthLimit) = false := by decide
  obtain ⟨hprint, hparsed⟩ := parse_text (by decide : e.IsShort) shallow
  have strictly : parse true e.text.toList = .ok e := hprint (by decide) true
  exact ⟨e, by decide, by decide, by decide, strictly, (hparsed _ _ strictly).2 false⟩

end Calculator
