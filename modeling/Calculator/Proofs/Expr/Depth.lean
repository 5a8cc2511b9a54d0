/-
What the limit on nesting can do to a run: it lets the run of the parser without
a limit through, or it stops it with the depth error (`Course.limited`). So what
is proved of the unlimited parser holds of every run that does not end with that
error.

A run that ends with it has taken a token for every group and sign that it is in,
so its depth is bounded by what was left to parse (`Course.exceeds_of_isTooDeep`).
-/
import Calculator.Proofs.Expr.Lockstep

namespace Calculator.Parser

/-- The outcome is the depth error. -/
def IsTooDeep (o : Except ExpressionError Expr) : Prop :=
  ∃ kind, o = .error (.grammatical (.tooDeep kind))

/-- Some course of the level ends with the depth error. -/
def Sinks (limit : Option Nat) (depth : Nat) (l : Level) (left : Option Expr) (p : Parser) : Prop :=
  ∃ o q, Course limit depth l left p o q ∧ IsTooDeep o

theorem exceeds_some_iff {depth limit : Nat} :
    exceeds depth (some limit) = true ↔ limit < depth := by
  simp [exceeds]

theorem exceeds_some_eq_false_iff {depth limit : Nat} :
    exceeds depth (some limit) = false ↔ depth ≤ limit := by
  rw [← Bool.not_eq_true, exceeds_some_iff, Nat.not_lt]

theorem exceeds_mono {depth depth' : Nat} {limit : Option Nat} (h : depth ≤ depth')
    (deep : exceeds depth limit = true) : exceeds depth' limit = true := by
  cases limit with
  | none => cases deep
  | some n => exact exceeds_some_iff.2 (Nat.lt_of_lt_of_le (exceeds_some_iff.1 deep) h)

theorem exceeds_of_le {depth depth' : Nat} {limit : Option Nat} (h : depth ≤ depth')
    (shallow : exceeds depth' limit = false) : exceeds depth limit = false := by
  rw [← Bool.not_eq_true] at shallow ⊢
  exact fun deep => shallow (exceeds_mono h deep)

/-- Under a limit a parser does what it does without one, or stops with the depth error. -/
theorem lockstep_limit (limit : Option Nat) :
    Lockstep none limit Eq fun e => ∃ kind, e = .grammatical (.tooDeep kind) where
  lookahead h := by rw [h]
  fetch := by
    rintro p _ q o rfl hfetch
    exact ⟨q, hfetch, rfl⟩
  close := by
    rintro p _ q o rfl hclose
    exact .inl ⟨q, hclose, rfl⟩
  deep depth kind := by
    cases exceeds depth limit with
    | false => exact .inl rfl
    | true => exact .inr ⟨rfl, kind, rfl⟩

theorem Course.limited {depth : Nat} {l : Level} {left : Option Expr} {p q : Parser}
    {o : Except ExpressionError Expr} (h : Course none depth l left p o q) (limit : Option Nat) :
    Course limit depth l left p o q ∨ Sinks limit depth l left p := by
  obtain ⟨_, hc, rfl⟩ | ⟨_, r, ⟨kind, rfl⟩, hc⟩ := h.follow (lockstep_limit limit) rfl
  · exact .inl hc
  · exact .inr ⟨_, r, hc, kind, rfl⟩

/-! ## How deep a run can go -/

theorem not_isTooDeep_of_fetch {p q : Parser} {e : ExpressionError} (h : p.fetch = (.error e, q)) :
    ¬IsTooDeep (.error e) := by
  rintro ⟨kind, heq⟩
  cases heq
  unfold fetch at h
  split at h <;> cases h

theorem not_isTooDeep_of_close {p q : Parser} {o : Except ExpressionError Unit} {e : Expr}
    (h : p.close = (o, q)) : ¬IsTooDeep (o.map fun _ => e) := by
  rintro ⟨kind, heq⟩
  cases o with
  | ok u => cases heq
  | error error =>
    cases heq
    unfold close eat at h
    split at h
    · cases h
    · split at h
      · exact not_isTooDeep_of_fetch h ⟨kind, rfl⟩
      · cases h

theorem IsTooDeep.of_map {o : Except ExpressionError Expr} {f : Expr → Expr}
    (h : IsTooDeep (o.map f)) : IsTooDeep o := by
  obtain ⟨kind, h⟩ := h
  cases o with
  | error e => exact ⟨kind, congrArg _ (Except.error.inj h)⟩
  | ok e => cases h

theorem remaining_of_fetch {p q : Parser} {t : Token} (stands : p.lookahead = t)
    (ht : t ≠ .endOfText) (h : p.fetch = (.ok (), q)) : q.remaining + 1 ≤ p.remaining := by
  have := remaining_fetch_lt (p := p) (stands ▸ ht) (by rw [h])
  rwa [h] at this

theorem Course.remaining_lt {limit : Option Nat} {depth : Nat} {l : Level} {p q : Parser}
    {e : Expr} (h : Course limit depth l none p (.ok e) q) : q.remaining + 1 ≤ p.remaining := by
  obtain ⟨ho, hq⟩ := Prod.mk.inj (course_iff.1 h)
  have := (level limit depth l p).gain e ho
  rwa [hq] at this

/-- A run ends with the depth error only if groups of all that was left to parse would be too
deep. -/
theorem Course.exceeds_of_isTooDeep {limit : Option Nat} {depth : Nat} {l : Level}
    {left : Option Expr} {p q : Parser} {o : Except ExpressionError Expr}
    (h : Course limit depth l left p o q) (deep : IsTooDeep o) :
    exceeds (depth + groupDepth * p.remaining) limit = true := by
  induction h with
  | tooDeep exceeded => exact exceeds_mono (Nat.le_add_right ..) exceeded
  | noOperand _ _ | number _ _ _ | stop _ =>
    obtain ⟨kind, heq⟩ := deep
    cases heq
  | unreadOperand _ _ fetch | unreadOperator _ fetch =>
    exact absurd deep (not_isTooDeep_of_fetch fetch)
  | sign _ stands fetch _ ih =>
    have hlt := remaining_of_fetch stands nofun fetch
    refine exceeds_mono ?_ (ih deep.of_map)
    simp only [signDepth, groupDepth]
    omega
  | badGroup _ stands fetch _ ih =>
    have hlt := remaining_of_fetch stands nofun fetch
    refine exceeds_mono ?_ (ih deep)
    simp only [groupDepth]
    omega
  | group _ _ _ _ closed _ => exact absurd deep (not_isTooDeep_of_close closed)
  | badFirst _ _ ih => exact ih deep
  | first _ operand _ _ ih₂ =>
    have hlt := operand.remaining_lt
    refine exceeds_mono ?_ (ih₂ deep)
    simp only [groupDepth]
    omega
  | badNext stands fetch _ ih =>
    have hlt := remaining_of_fetch rfl (Level.ne_endOfText_of_operator? stands) fetch
    refine exceeds_mono ?_ (ih deep)
    simp only [groupDepth]
    omega
  | join stands fetch operand _ _ ih₂ =>
    have hlt := remaining_of_fetch rfl (Level.ne_endOfText_of_operator? stands) fetch
    have hlt' := operand.remaining_lt
    refine exceeds_mono ?_ (ih₂ deep)
    simp only [groupDepth]
    omega

end Calculator.Parser
