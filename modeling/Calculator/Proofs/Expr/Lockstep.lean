/-
Two parsers in lockstep. One follows the other if from related parsers every
fetch and every end of a group of the one is matched by the other, or the other
stops there with an error of its own (`Lockstep`). Then it follows every course
to the same outcome, or stops on the way (`Course.follow`).

A parser under a limit follows the one without, and a strict parser the loose
one; what each says of its errors is an instance.
-/
import Calculator.Proofs.Expr.Course

namespace Calculator.Parser

/-- The related parser, under its own limit, does what the parser does, or stops with one of the
errors. -/
structure Lockstep (limit limit' : Option Nat) (Related : Parser → Parser → Prop)
    (Stops : ExpressionError → Prop) : Prop where
  lookahead : ∀ {p p'}, Related p p' → p'.lookahead = p.lookahead
  fetch : ∀ {p p' q o}, Related p p' → p.fetch = (o, q) → ∃ q', p'.fetch = (o, q') ∧ Related q q'
  close : ∀ {p p' q o}, Related p p' → p.close = (o, q) →
    (∃ q', p'.close = (o, q') ∧ Related q q') ∨ ∃ e q', Stops e ∧ p'.close = (.error e, q')
  deep : ∀ depth kind, exceeds depth limit' = exceeds depth limit ∨
    (exceeds depth limit' = true ∧ Stops (.grammatical (.tooDeep kind)))

/-- Some course of the level ends with one of the errors. -/
def StopsAt (Stops : ExpressionError → Prop) (limit : Option Nat) (depth : Nat) (l : Level)
    (left : Option Expr) (p : Parser) : Prop :=
  ∃ e q, Stops e ∧ Course limit depth l left p (.error e) q

/-- What comes of following a course: the same outcome in a related parser, or one of the
errors. -/
def Followed (limit : Option Nat) (Related : Parser → Parser → Prop)
    (Stops : ExpressionError → Prop) (depth : Nat) (l : Level) (left : Option Expr) (p : Parser)
    (o : Except ExpressionError Expr) (q : Parser) : Prop :=
  (∃ q', Course limit depth l left p o q' ∧ Related q q') ∨ StopsAt Stops limit depth l left p

section

variable {limit limit' : Option Nat} {Related : Parser → Parser → Prop}
  {Stops : ExpressionError → Prop}

theorem Lockstep.shallow_or_stopsAt (step : Lockstep limit limit' Related Stops) {depth : Nat}
    (shallow : exceeds depth limit = false) (p : Parser) :
    exceeds depth limit' = false ∨ StopsAt Stops limit' depth .operand none p := by
  obtain heq | ⟨deep, hstops⟩ := step.deep depth p.lookahead.kind
  · exact .inl (heq.trans shallow)
  · exact .inr ⟨_, p, hstops, .tooDeep deep⟩

/-- **A parser in lockstep follows every course,** or stops with one of its errors. -/
theorem Course.follow (step : Lockstep limit limit' Related Stops) {depth : Nat} {l : Level}
    {left : Option Expr} {p q : Parser} {o : Except ExpressionError Expr}
    (h : Course limit depth l left p o q) :
    ∀ {p'}, Related p p' → Followed limit' Related Stops depth l left p' o q := by
  -- The other parser takes the same constructor, unless it stops at its own limit, in a part of
  -- the course, or where the group is closed.
  induction h with
  | @tooDeep depth p deep =>
    intro p' hp
    have deep' : exceeds depth limit' = true := by
      obtain heq | ⟨deep', -⟩ := step.deep depth p.lookahead.kind
      · exact heq.trans deep
      · exact deep'
    rw [← step.lookahead hp]
    exact .inl ⟨p', .tooDeep deep', hp⟩
  | noOperand shallow stands =>
    intro p' hp
    refine (step.shallow_or_stopsAt shallow p').elim (fun shallow' => .inl ?_) .inr
    rw [← step.lookahead hp] at stands ⊢
    exact ⟨p', .noOperand shallow' stands, hp⟩
  | unreadOperand shallow stands fetch =>
    intro p' hp
    refine (step.shallow_or_stopsAt shallow p').elim (fun shallow' => .inl ?_) .inr
    rw [← step.lookahead hp] at stands
    obtain ⟨q', hfetch, hq⟩ := step.fetch hp fetch
    exact ⟨q', .unreadOperand shallow' stands hfetch, hq⟩
  | number shallow stands fetch =>
    intro p' hp
    refine (step.shallow_or_stopsAt shallow p').elim (fun shallow' => .inl ?_) .inr
    rw [← step.lookahead hp] at stands
    obtain ⟨q', hfetch, hq⟩ := step.fetch hp fetch
    exact ⟨q', .number shallow' stands hfetch, hq⟩
  | sign shallow stands fetch _ ih =>
    intro p' hp
    refine (step.shallow_or_stopsAt shallow p').elim (fun shallow' => ?_) .inr
    rw [← step.lookahead hp] at stands
    obtain ⟨q', hfetch, hq⟩ := step.fetch hp fetch
    obtain ⟨r', hc, hr⟩ | ⟨e, r', hstops, hc⟩ := ih hq
    · exact .inl ⟨r', .sign shallow' stands hfetch hc, hr⟩
    · exact .inr ⟨e, r', hstops, .sign shallow' stands hfetch hc⟩
  | badGroup shallow stands fetch _ ih =>
    intro p' hp
    refine (step.shallow_or_stopsAt shallow p').elim (fun shallow' => ?_) .inr
    rw [← step.lookahead hp] at stands
    obtain ⟨q', hfetch, hq⟩ := step.fetch hp fetch
    obtain ⟨r', hc, hr⟩ | ⟨e, r', hstops, hc⟩ := ih hq
    · exact .inl ⟨r', .badGroup shallow' stands hfetch hc, hr⟩
    · exact .inr ⟨e, r', hstops, .badGroup shallow' stands hfetch hc⟩
  | group shallow stands fetch _ closed ih =>
    intro p' hp
    refine (step.shallow_or_stopsAt shallow p').elim (fun shallow' => ?_) .inr
    rw [← step.lookahead hp] at stands
    obtain ⟨q', hfetch, hq⟩ := step.fetch hp fetch
    obtain ⟨r', hc, hr⟩ | ⟨e, r', hstops, hc⟩ := ih hq
    · obtain ⟨s', hclosed, hs⟩ | ⟨e, s', hstops, hclosed⟩ := step.close hr closed
      · exact .inl ⟨s', .group shallow' stands hfetch hc hclosed, hs⟩
      · exact .inr ⟨e, s', hstops, .group shallow' stands hfetch hc hclosed⟩
    · exact .inr ⟨e, r', hstops, .badGroup shallow' stands hfetch hc⟩
  | badFirst joins _ ih =>
    intro p' hp
    obtain ⟨q', hc, hq⟩ | ⟨e, q', hstops, hc⟩ := ih hp
    · exact .inl ⟨q', .badFirst joins hc, hq⟩
    · exact .inr ⟨e, q', hstops, .badFirst joins hc⟩
  | first joins _ _ ih₁ ih₂ =>
    intro p' hp
    obtain ⟨q', hc, hq⟩ | ⟨e, q', hstops, hc⟩ := ih₁ hp
    · obtain ⟨r', hc', hr⟩ | ⟨e, r', hstops, hc'⟩ := ih₂ hq
      · exact .inl ⟨r', .first joins hc hc', hr⟩
      · exact .inr ⟨e, r', hstops, .first joins hc hc'⟩
    · exact .inr ⟨e, q', hstops, .badFirst joins hc⟩
  | stop stands =>
    intro p' hp
    rw [← step.lookahead hp] at stands
    exact .inl ⟨p', .stop stands, hp⟩
  | unreadOperator stands fetch =>
    intro p' hp
    rw [← step.lookahead hp] at stands
    obtain ⟨q', hfetch, hq⟩ := step.fetch hp fetch
    exact .inl ⟨q', .unreadOperator stands hfetch, hq⟩
  | badNext stands fetch _ ih =>
    intro p' hp
    rw [← step.lookahead hp] at stands
    obtain ⟨q', hfetch, hq⟩ := step.fetch hp fetch
    obtain ⟨r', hc, hr⟩ | ⟨e, r', hstops, hc⟩ := ih hq
    · exact .inl ⟨r', .badNext stands hfetch hc, hr⟩
    · exact .inr ⟨e, r', hstops, .badNext stands hfetch hc⟩
  | join stands fetch _ _ ih₁ ih₂ =>
    intro p' hp
    rw [← step.lookahead hp] at stands
    obtain ⟨q', hfetch, hq⟩ := step.fetch hp fetch
    obtain ⟨r', hc, hr⟩ | ⟨e, r', hstops, hc⟩ := ih₁ hq
    · obtain ⟨s', hc', hs⟩ | ⟨e, s', hstops, hc'⟩ := ih₂ hr
      · exact .inl ⟨s', .join stands hfetch hc hc', hs⟩
      · exact .inr ⟨e, s', hstops, .join stands hfetch hc hc'⟩
    · exact .inr ⟨e, r', hstops, .badNext stands hfetch hc⟩

end

end Calculator.Parser
