/-
The courses that the rules of the parser can take, as a relation.

`Course limit depth l left p o q` says that level `l`, started in the parser `p`
at that depth, comes to the outcome `o` and leaves the parser `q`; `left` is what
the level has folded so far, `none` at its beginning. There is one constructor
for each way a rule can go on or end, so what a rule preserves is proved by
induction on its course.

`course_iff` says that the relation is what `level` computes.
-/
import Calculator.Expr.Parser

namespace Calculator.Parser

namespace Run

variable {p q : Parser} {α β : Type} {m n : Nat}

/-- The outcome of a run and the parser it leaves. -/
def answer (r : Run p n α) : Except ExpressionError α × Parser := (r.outcome, r.after)

@[simp] theorem answer_weaken (h : m ≤ n) (r : Run p n α) : (r.weaken h).answer = r.answer := rfl

@[simp] theorem answer_map (f : α → β) (r : Run p n α) :
    (r.map f).answer = (r.answer.1.map f, r.answer.2) := by
  obtain ⟨o, q, le, gain⟩ := r
  cases o <;> rfl

theorem answer_andThen_error {r : Run p m α} {e : ExpressionError}
    (f : α → (q : Parser) → q.remaining + m ≤ p.remaining → Run q n β)
    (h : r.answer = (.error e, q)) : (r.andThen f).answer = (.error e, q) := by
  obtain ⟨o, q, le, gain⟩ := r
  cases h
  rfl

theorem answer_andThen_ok {r : Run p m α} {a : α}
    (f : α → (q : Parser) → q.remaining + m ≤ p.remaining → Run q n β)
    (h : r.answer = (.ok a, q)) : ∃ hq, (r.andThen f).answer = (f a q hq).answer := by
  obtain ⟨o, q, le, gain⟩ := r
  cases h
  exact ⟨gain a rfl, rfl⟩

end Run

@[simp] theorem answer_take (p : Parser) (h : p.lookahead ≠ .endOfText) :
    (p.take h).answer = p.fetch := rfl

theorem take_eq_eat {p : Parser} {t : Token} (stands : p.lookahead = t) (h : p.lookahead ≠ .endOfText) :
    (p.take h).answer = p.eat t.kind := by
  rw [answer_take, eat, if_pos (congrArg Token.kind stands)]

/-- **What a rule takes, it eats by the kind that it has looked for:** a parenthesis, a sign or an
integer where an operand begins, and behind an operand an operator of the rule's own level. -/
theorem rules_eat {p : Parser} (h : p.lookahead ≠ .endOfText) :
    (p.lookahead = .paren .opening → (p.take h).answer = p.eat .paren) ∧
    (∀ sign, p.lookahead = .additive sign → (p.take h).answer = p.eat .additive) ∧
    (∀ n, p.lookahead = .integer n → (p.take h).answer = p.eat .integer) ∧
    (∀ op, Level.sum.operator? p.lookahead = some op → (p.take h).answer = p.eat .additive) ∧
    (∀ op, Level.product.operator? p.lookahead = some op →
      (p.take h).answer = p.eat .multiplicative) ∧
    ∀ op, Level.power.operator? p.lookahead = some op → (p.take h).answer = p.eat .power := by
  have operator : ∀ {l : Level} {op}, l.operator? p.lookahead = some op →
      op.level = l ∧ (p.take h).answer = p.eat op.token.kind := fun hop =>
    ⟨(Level.operator?_eq_some_iff.1 hop).2, take_eq_eat (Level.operator?_eq_some_iff.1 hop).1 h⟩
  refine ⟨fun stands => take_eq_eat stands h, fun _ stands => take_eq_eat stands h,
    fun _ stands => take_eq_eat stands h, fun op hop => ?_, fun op hop => ?_, fun op hop => ?_⟩ <;>
  · obtain ⟨hlevel, heat⟩ := operator hop
    cases op <;> first | exact heat | cases hlevel

/-- Takes the parenthesis that ends a group. -/
def close (p : Parser) : Except ExpressionError Unit × Parser :=
  if p.strict ∧ p.lookahead = .paren .opening then (.error (.grammatical .groupReopened), p)
  else p.eat .paren

@[simp] theorem answer_closeGroup (p : Parser) : p.closeGroup.answer = p.close := by
  unfold closeGroup close
  split <;> rfl

/-- The token may begin an operand. -/
def BeginsOperand : Token → Prop
  | .paren .opening | .additive _ | .integer _ => True
  | _ => False

/-- A course of a level: its depth, the level, what it has folded so far, the parser it starts
in, its outcome, and the parser it leaves. -/
inductive Course (limit : Option Nat) : Nat → Level → Option Expr → Parser →
    Except ExpressionError Expr → Parser → Prop where
  | tooDeep {depth : Nat} {p : Parser} (deep : exceeds depth limit = true) :
      Course limit depth .operand none p (.error (.grammatical (.tooDeep p.lookahead.kind))) p
  | noOperand {depth : Nat} {p : Parser} (shallow : exceeds depth limit = false)
      (stands : ¬BeginsOperand p.lookahead) :
      Course limit depth .operand none p (.error (.grammatical (.noOperand p.lookahead.kind))) p
  | unreadOperand {depth : Nat} {p q : Parser} {e : ExpressionError}
      (shallow : exceeds depth limit = false) (stands : BeginsOperand p.lookahead)
      (fetch : p.fetch = (.error e, q)) : Course limit depth .operand none p (.error e) q
  | number {depth n : Nat} {p q : Parser} (shallow : exceeds depth limit = false)
      (stands : p.lookahead = .integer n) (fetch : p.fetch = (.ok (), q)) :
      Course limit depth .operand none p (.ok (.number n)) q
  | sign {depth : Nat} {p q r : Parser} {sign : Sign} {o : Except ExpressionError Expr}
      (shallow : exceeds depth limit = false) (stands : p.lookahead = .additive sign)
      (fetch : p.fetch = (.ok (), q))
      (operand : Course limit (depth + signDepth) .operand none q o r) :
      Course limit depth .operand none p (o.map (.unary sign)) r
  | badGroup {depth : Nat} {p q r : Parser} {e : ExpressionError}
      (shallow : exceeds depth limit = false) (stands : p.lookahead = .paren .opening)
      (fetch : p.fetch = (.ok (), q))
      (inner : Course limit (depth + groupDepth) .sum none q (.error e) r) :
      Course limit depth .operand none p (.error e) r
  | group {depth : Nat} {p q r s : Parser} {e : Expr} {o : Except ExpressionError Unit}
      (shallow : exceeds depth limit = false) (stands : p.lookahead = .paren .opening)
      (fetch : p.fetch = (.ok (), q))
      (inner : Course limit (depth + groupDepth) .sum none q (.ok e) r)
      (closed : r.close = (o, s)) :
      Course limit depth .operand none p (o.map fun _ => e) s
  | badFirst {depth : Nat} {l : Level} {p q : Parser} {e : ExpressionError} (joins : l ≠ .operand)
      (operand : Course limit depth l.tighter none p (.error e) q) :
      Course limit depth l none p (.error e) q
  | first {depth : Nat} {l : Level} {p q r : Parser} {left : Expr}
      {o : Except ExpressionError Expr} (joins : l ≠ .operand)
      (operand : Course limit depth l.tighter none p (.ok left) q)
      (rest : Course limit depth l (some left) q o r) : Course limit depth l none p o r
  | stop {depth : Nat} {l : Level} {p : Parser} {left : Expr}
      (stands : l.operator? p.lookahead = none) : Course limit depth l (some left) p (.ok left) p
  | unreadOperator {depth : Nat} {l : Level} {p q : Parser} {left : Expr} {op : Operator}
      {e : ExpressionError} (stands : l.operator? p.lookahead = some op)
      (fetch : p.fetch = (.error e, q)) : Course limit depth l (some left) p (.error e) q
  | badNext {depth : Nat} {l : Level} {p q r : Parser} {left : Expr} {op : Operator}
      {e : ExpressionError} (stands : l.operator? p.lookahead = some op)
      (fetch : p.fetch = (.ok (), q)) (operand : Course limit depth l.tighter none q (.error e) r) :
      Course limit depth l (some left) p (.error e) r
  | join {depth : Nat} {l : Level} {p q r s : Parser} {left right : Expr} {op : Operator}
      {o : Except ExpressionError Expr} (stands : l.operator? p.lookahead = some op)
      (fetch : p.fetch = (.ok (), q)) (operand : Course limit depth l.tighter none q (.ok right) r)
      (rest : Course limit depth l (some (.binary left op right)) r o s) :
      Course limit depth l (some left) p o s

/-! ## Every run takes a course -/

/-- The answer is where a course of the level leads. -/
def CourseTo (limit : Option Nat) (depth : Nat) (l : Level) (left : Option Expr) (p : Parser)
    (answer : Except ExpressionError Expr × Parser) : Prop :=
  Course limit depth l left p answer.1 answer.2

mutual

theorem course_operand (limit : Option Nat) (depth : Nat) (p : Parser) :
    CourseTo limit depth .operand none p (operand limit depth p).answer := by
  rw [operand]
  split
  next deep => exact .tooDeep deep
  next shallow =>
  rw [Bool.not_eq_true] at shallow
  split
  next h =>
    have hb : BeginsOperand p.lookahead := by rw [h]; trivial
    rcases hf : (p.take (by simp [h])).answer with ⟨e | u, q⟩
    · rw [Run.answer_andThen_error _ hf]
      exact .unreadOperand shallow hb hf
    · obtain ⟨hq, heq⟩ := Run.answer_andThen_ok _ hf
      rw [heq, Run.answer_weaken]
      have ih := course_level limit (depth + groupDepth) .sum q
      rcases hr : (level limit (depth + groupDepth) .sum q).answer with ⟨e | e, r⟩
      · rw [Run.answer_andThen_error _ hr]
        rw [hr] at ih
        exact .badGroup shallow h hf ih
      · obtain ⟨hq, heq⟩ := Run.answer_andThen_ok _ hr
        rw [heq, Run.answer_map, answer_closeGroup]
        rw [hr] at ih
        exact .group shallow h hf ih rfl
  next sign h =>
    have hb : BeginsOperand p.lookahead := by rw [h]; trivial
    rcases hf : (p.take (by simp [h])).answer with ⟨e | u, q⟩
    · rw [Run.answer_andThen_error _ hf]
      exact .unreadOperand shallow hb hf
    · obtain ⟨hq, heq⟩ := Run.answer_andThen_ok _ hf
      rw [heq, Run.answer_weaken, Run.answer_map]
      exact .sign shallow h hf (course_operand limit (depth + signDepth) q)
  next n h =>
    have hb : BeginsOperand p.lookahead := by rw [h]; trivial
    rw [Run.answer_map, answer_take]
    rcases hf : p.fetch with ⟨e | u, q⟩
    · exact .unreadOperand shallow hb hf
    · exact .number shallow h hf
  next h₁ h₂ h₃ =>
    refine .noOperand shallow fun hb => ?_
    unfold BeginsOperand at hb
    split at hb
    · exact h₁ ‹_›
    · exact h₂ _ ‹_›
    · exact h₃ _ ‹_›
    · exact hb
termination_by (p.remaining, 0)

theorem course_level (limit : Option Nat) (depth : Nat) (l : Level) (p : Parser) :
    CourseTo limit depth l none p (level limit depth l p).answer := by
  rw [level]
  split
  next hl =>
    rw [hl]
    exact course_operand limit depth p
  next hl =>
  have hlt := Level.rank_tighter_lt hl
  have ih := course_level limit depth l.tighter p
  split
  next e q le gain heq =>
    rw [heq] at ih
    exact .badFirst hl ih
  next left q le gain heq =>
    rw [heq] at ih
    have hq := gain left rfl
    exact .first hl ih (course_more limit depth l p left q hq)
termination_by (p.remaining, l.rank + 1)

theorem course_more (limit : Option Nat) (depth : Nat) (l : Level) (start : Parser) (left : Expr)
    (p : Parser) (hp : p.remaining + 1 ≤ start.remaining) :
    CourseTo limit depth l (some left) p (more limit depth l start left p hp).answer := by
  rw [more]
  split
  next h => exact .stop h
  next op h =>
  split
  next e q le gain heq =>
    exact .unreadOperator h (congrArg Run.answer heq)
  next u q le gain heq =>
  have hq := gain () rfl
  have ih := course_level limit depth l.tighter q
  dsimp only
  split
  next e r le gain' heq' =>
    rw [heq'] at ih
    exact .badNext h (congrArg Run.answer heq) ih
  next right r le gain' heq' =>
    rw [heq'] at ih
    have hr := gain' right rfl
    exact .join h (congrArg Run.answer heq) ih
      (course_more limit depth l start (.binary left op right) r _)
termination_by (p.remaining, 0)

end

/-! ## No run has a choice -/

theorem Course.det {limit : Option Nat} {depth : Nat} {l : Level} {left : Option Expr}
    {p q q' : Parser} {o o' : Except ExpressionError Expr} (h : Course limit depth l left p o q)
    (h' : Course limit depth l left p o' q') : o = o' ∧ q = q' := by
  induction h generalizing o' q' with
  | tooDeep deep => cases h' <;> simp_all
  | noOperand shallow stands => cases h' <;> simp_all [BeginsOperand]
  | unreadOperand shallow stands fetch => cases h' <;> simp_all
  | number shallow stands fetch => cases h' <;> simp_all [BeginsOperand]
  | sign shallow stands fetch operand ih =>
    cases h' with
    | sign _ stands' fetch' operand' =>
      cases stands.symm.trans stands'
      cases fetch.symm.trans fetch'
      obtain ⟨rfl, rfl⟩ := ih operand'
      exact ⟨rfl, rfl⟩
    | _ => simp_all [BeginsOperand]
  | badGroup shallow stands fetch inner ih =>
    cases h' with
    | badGroup _ _ fetch' inner' =>
      cases fetch.symm.trans fetch'
      exact ih inner'
    | group _ _ fetch' inner' closed' =>
      cases fetch.symm.trans fetch'
      exact nomatch (ih inner').1
    | _ => simp_all [BeginsOperand]
  | group shallow stands fetch inner closed ih =>
    cases h' with
    | badGroup _ _ fetch' inner' =>
      cases fetch.symm.trans fetch'
      exact nomatch (ih inner').1
    | group _ _ fetch' inner' closed' =>
      cases fetch.symm.trans fetch'
      obtain ⟨heq, rfl⟩ := ih inner'
      cases heq
      cases closed.symm.trans closed'
      exact ⟨rfl, rfl⟩
    | _ => simp_all [BeginsOperand]
  | badFirst joins operand ih =>
    cases h' with
    | badFirst _ operand' => exact ih operand'
    | first _ operand' _ => exact nomatch (ih operand').1
    | _ => exact absurd rfl joins
  | first joins operand rest ih₁ ih₂ =>
    cases h' with
    | badFirst _ operand' => exact nomatch (ih₁ operand').1
    | first _ operand' rest' =>
      obtain ⟨heq, rfl⟩ := ih₁ operand'
      cases heq
      exact ih₂ rest'
    | _ => exact absurd rfl joins
  | stop stands => cases h' <;> simp_all
  | unreadOperator stands fetch => cases h' <;> simp_all
  | badNext stands fetch operand ih =>
    cases h' with
    | badNext _ fetch' operand' =>
      cases fetch.symm.trans fetch'
      exact ih operand'
    | join _ fetch' operand' _ =>
      cases fetch.symm.trans fetch'
      exact nomatch (ih operand').1
    | _ => simp_all
  | join stands fetch operand rest ih₁ ih₂ =>
    cases h' with
    | badNext _ fetch' operand' =>
      cases fetch.symm.trans fetch'
      exact nomatch (ih₁ operand').1
    | join stands' fetch' operand' rest' =>
      cases stands.symm.trans stands'
      cases fetch.symm.trans fetch'
      obtain ⟨heq, rfl⟩ := ih₁ operand'
      cases heq
      exact ih₂ rest'
    | _ => simp_all

/-- A level has one course, which is the run that it computes. -/
theorem course_iff {limit : Option Nat} {depth : Nat} {l : Level} {p q : Parser}
    {o : Except ExpressionError Expr} :
    Course limit depth l none p o q ↔ (level limit depth l p).answer = (o, q) := by
  have hrun := course_level limit depth l p
  constructor
  · intro h
    obtain ⟨ho, hq⟩ := hrun.det h
    exact Prod.ext ho hq
  · intro h
    rwa [h] at hrun

theorem expression_eq_iff {limit : Option Nat} {p q : Parser} {o : Except ExpressionError Expr} :
    p.expression limit = (o, q) ↔ Course limit 0 .sum none p o q := course_iff.symm

end Calculator.Parser
