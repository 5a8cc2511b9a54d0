/-
The rules of the parser against the grammar, over any tokens that a parser can
take.

`Course.sound`: a level that succeeds has taken tokens that derive its tree, and
stops before a token that cannot continue them. `course_of_derives`: tokens that
derive a tree are parsed as that tree by the parser without a limit, if what
stands behind them cannot continue them. Grammar and loop fold in opposite order,
a derivation growing at its end and the loop going on from its beginning, so the
second is proved of what a level does with any tokens behind (`Leads`).
-/
import Calculator.Expr.Grammar
import Calculator.Proofs.Expr.Course
import Calculator.Proofs.Expr.Eating

namespace Calculator

/-- The parentheses that close a group, in strict and in loose parsing. -/
def Closes : Bool → Paren → Prop
  | true => ClosesStrictly
  | false => ClosesLoosely

/-- The token does not continue an expression of the level: it is no operator of this level or of
a tighter one. -/
def EndsLevel (l : Level) (t : Token) : Prop :=
  ∀ op : Operator, t = op.token → l.rank < op.level.rank

theorem endsLevel_operand (t : Token) : EndsLevel .operand t := by
  intro op _
  cases op <;> simp [Operator.level, Level.rank]

theorem EndsLevel.tighter {l : Level} {t : Token} (h : EndsLevel l t) : EndsLevel l.tighter t := by
  intro op hop
  have := h op hop
  cases l <;> simp_all [Level.tighter, Level.rank] <;> omega

theorem endsLevel_of_operator?_eq_none {l : Level} {t : Token} (h : EndsLevel l.tighter t)
    (hl : l.operator? t = none) : EndsLevel l t := by
  intro op hop
  have hne : op.level ≠ l := by
    intro heq
    rw [Level.operator?_eq_some_iff.2 ⟨hop, heq⟩] at hl
    cases hl
  have := h op hop
  cases l <;> cases op <;> simp_all [Level.tighter, Level.rank, Operator.level]

theorem EndsLevel.operator?_eq_none {l : Level} {t : Token} (h : EndsLevel l t) :
    l.operator? t = none := by
  cases hop : l.operator? t with
  | none => rfl
  | some op =>
    obtain ⟨ht, rfl⟩ := Level.operator?_eq_some_iff.1 hop
    exact absurd (h op ht) (Nat.lt_irrefl _)

theorem endsLevel_token {op : Operator} : EndsLevel op.level.tighter op.token := by
  intro op' h
  cases op <;> cases op' <;> simp_all [Operator.token, Operator.level, Level.tighter, Level.rank]

theorem endsLevel_of_operator? {l : Level} {t : Token} (h : t.operator? = none) :
    EndsLevel l t := by
  rintro op rfl
  rw [Token.operator?_eq_some_iff.2 rfl] at h
  cases h

theorem closes_closing (strict : Bool) : Closes strict .closing := by
  cases strict
  · trivial
  · rfl

theorem Operator.level_ne_operand (op : Operator) : op.level ≠ .operand := by
  cases op <;> nofun

theorem Level.rank_le_tighter {l l' : Level} (h : l.rank ≤ l'.rank) (hne : l ≠ l') :
    l' ≠ .operand ∧ l.rank ≤ l'.tighter.rank := by
  cases l <;> cases l' <;> simp_all [rank, tighter]

theorem Level.rank_le_sum (l : Level) : l.rank ≤ Level.sum.rank := by
  cases l <;> decide

/-- An expression of a level is one of every looser level. -/
theorem Derives.widen {closes : Paren → Prop} {l l' : Level} {tokens : List Token} {e : Expr}
    (d : Derives closes l tokens e) (hl : l.rank ≤ l'.rank) : Derives closes l' tokens e := by
  by_cases hne : l = l'
  · exact hne ▸ d
  · obtain ⟨joins, hl⟩ := Level.rank_le_tighter hl hne
    exact .single joins (d.widen hl)
termination_by l'.rank
decreasing_by exact Level.rank_tighter_lt joins

theorem Derives.of_operand {closes : Paren → Prop} {tokens : List Token} {e : Expr}
    (d : Derives closes .operand tokens e) (l : Level) : Derives closes l tokens e :=
  d.widen (Nat.zero_le _)

theorem Derives.endOfText_notMem {closes : Paren → Prop} {l : Level} {tokens : List Token}
    {e : Expr} (d : Derives closes l tokens e) : .endOfText ∉ tokens := by
  induction d with
  | number n => simp
  | sign s _ ih => simpa using ih
  | group _ _ ih => simpa using ih
  | single _ _ ih => exact ih
  | @join _ _ _ _ _ op _ _ _ ih₁ ih₂ => cases op <;> simp [ih₁, ih₂, Operator.token]

namespace Parser

/-! ## Groups -/

theorem close_eq_fetch {p : Parser} {side : Paren} (stands : p.lookahead = .paren side)
    (closes : Closes p.strict side) : p.close = p.fetch := by
  unfold close eat
  rw [if_neg, if_pos (by rw [stands]; rfl)]
  rintro ⟨hs, ho⟩
  cases stands.symm.trans ho
  rw [hs] at closes
  cases closes

theorem exists_closes_of_kind {p : Parser} (hkind : p.lookahead.kind = .paren)
    (hopen : ¬(p.strict ∧ p.lookahead = .paren .opening)) :
    ∃ side, p.lookahead = .paren side ∧ Closes p.strict side := by
  cases hside : p.lookahead with
  | paren side =>
    refine ⟨side, rfl, ?_⟩
    cases hs : p.strict with
    | false => trivial
    | true =>
      cases side with
      | opening => exact absurd ⟨hs, hside⟩ hopen
      | closing => rfl
  | _ => rw [hside] at hkind; cases hkind

theorem close_ok_iff {p q : Parser} : p.close = (.ok (), q) ↔
    ∃ side, p.lookahead = .paren side ∧ Closes p.strict side ∧ p.fetch = (.ok (), q) := by
  constructor
  · intro h
    unfold close eat at h
    split at h
    next => cases h
    next hopen =>
    split at h
    next hkind =>
      obtain ⟨side, hside, hcloses⟩ := exists_closes_of_kind hkind hopen
      exact ⟨side, hside, hcloses, h⟩
    next => cases h
  · rintro ⟨side, hside, hcloses, hfetch⟩
    rw [close_eq_fetch hside hcloses, hfetch]

theorem close_of_eats {p q : Parser} {side : Paren} (h : Eats p [.paren side] q)
    (closes : Closes p.strict side) : p.lookahead = .paren side ∧ p.close = (.ok (), q) := by
  obtain ⟨stands, -, r, hfetch, hnil⟩ := h.of_cons
  cases hnil
  exact ⟨stands, close_ok_iff.2 ⟨side, stands, closes, hfetch⟩⟩

/-! ## Soundness -/

/-- The tokens are an expression of the level with this tree, given behind any tokens of `left`
if there is a left operand already. -/
def Extends (closes : Paren → Prop) (l : Level) : Option Expr → List Token → Expr → Prop
  | none, tokens, e => Derives closes l tokens e
  | some left, tokens, e =>
    ∀ before, Derives closes l before left → Derives closes l (before ++ tokens) e

theorem Extends.refl (closes : Paren → Prop) (l : Level) (e : Expr) :
    Extends closes l (some e) [] e := fun before hbefore => by rwa [List.append_nil]

/-- One operand more, and then what follows it. -/
theorem Extends.join {closes : Paren → Prop} {l : Level} {op : Operator} {left right e : Expr}
    {after tokens : List Token} (fits : op.level = l) (operand : Derives closes l.tighter after right)
    (rest : Extends closes l (some (.binary left op right)) tokens e) :
    Extends closes l (some left) (op.token :: (after ++ tokens)) e := by
  intro before operands
  have := rest _ (.join fits operands operand)
  rwa [List.append_assoc, List.cons_append] at this

/-- A level that succeeds has taken tokens that derive its tree, and stops before a token that
does not continue them. -/
theorem Course.sound {limit : Option Nat} {depth : Nat} {l : Level} {left : Option Expr}
    {p q : Parser} {o : Except ExpressionError Expr} (h : Course limit depth l left p o q) :
    ∀ e, o = .ok e → (left.isSome → EndsLevel l.tighter p.lookahead) →
      EndsLevel l q.lookahead ∧
        ∃ tokens, Eats p tokens q ∧ Extends (Closes p.strict) l left tokens e := by
  induction h with
  | tooDeep _ | noOperand _ _ | unreadOperand _ _ _ => intro e he; cases he
  | badGroup _ _ _ _ _ | badFirst _ _ _ | unreadOperator _ _ | badNext _ _ _ _ =>
    intro e he; cases he
  | @number _ n p q _ stands fetch =>
    intro e he _
    cases he
    refine ⟨endsLevel_operand _, [.integer n], ?_, .number n⟩
    rw [← stands]
    exact .cons (by rw [stands]; nofun) fetch .nil
  | @sign _ p q r sign o _ stands fetch _ ih =>
    intro e he _
    cases o with
    | error _ => cases he
    | ok operand =>
      cases he
      obtain ⟨-, tokens, heats, hderives⟩ := ih operand rfl nofun
      rw [(fetch_ok fetch).1] at hderives
      refine ⟨endsLevel_operand _, .additive sign :: tokens, ?_, .sign sign hderives⟩
      rw [← stands]
      exact .cons (by rw [stands]; nofun) fetch heats
  | @group _ p q r s e o _ stands fetch _ closed ih =>
    intro e' he _
    cases o with
    | error _ => cases he
    | ok u =>
      obtain rfl : e = e' := Except.ok.inj he
      obtain ⟨-, tokens, heats, hderives⟩ := ih e rfl nofun
      obtain ⟨side, hside, hcloses, hfetch⟩ := close_ok_iff.1 closed
      rw [heats.strict_eq, (fetch_ok fetch).1] at hcloses
      rw [(fetch_ok fetch).1] at hderives
      refine ⟨endsLevel_operand _, Token.paren .opening :: (tokens ++ [Token.paren side]), ?_,
        .group hderives hcloses⟩
      have hlast : Eats r [.paren side] s := by
        rw [← hside]
        exact .cons (by rw [hside]; nofun) hfetch .nil
      rw [← stands]
      exact .cons (by rw [stands]; nofun) fetch (heats.append hlast)
  | @first _ l p q r left o joins _ _ ih₁ ih₂ =>
    intro e he _
    obtain ⟨hends, before, heats, hderives⟩ := ih₁ left rfl nofun
    obtain ⟨hends', tokens, heats', hextends⟩ := ih₂ e he fun _ => hends
    rw [heats.strict_eq] at hextends
    exact ⟨hends', before ++ tokens, heats.append heats',
      hextends before (.single joins hderives)⟩
  | stop stands =>
    intro e he hends
    cases he
    exact ⟨endsLevel_of_operator?_eq_none (hends rfl) stands, [], .nil, .refl _ _ _⟩
  | @join _ l p q r s left right op o stands fetch _ _ ih₁ ih₂ =>
    intro e he _
    obtain ⟨hends, after, heats, hderives⟩ := ih₁ right rfl nofun
    obtain ⟨hends', tokens, heats', hextends⟩ := ih₂ e he fun _ => hends
    obtain ⟨hop, hlevel⟩ := Level.operator?_eq_some_iff.1 stands
    rw [heats.strict_eq, (fetch_ok fetch).1] at hextends
    rw [(fetch_ok fetch).1] at hderives
    refine ⟨hends', op.token :: (after ++ tokens), ?_, .join hlevel hderives hextends⟩
    rw [← hop]
    exact .cons (Level.ne_endOfText_of_operator? stands) fetch (heats.append heats')

/-! ## Completeness -/

/-- What follows decides nothing but where the level ends: an operand is parsed as this tree,
and a level that joins operands goes on from this tree as if it had just begun with it. -/
def Leads (depth : Nat) (l : Level) (p : Parser) (e : Expr) (q : Parser) : Prop :=
  if l = .operand then Course none depth .operand none p (.ok e) q
  else ∀ o r, Course none depth l (some e) q o r → Course none depth l none p o r

theorem Leads.course {depth : Nat} {l : Level} {p q : Parser} {e : Expr}
    (h : Leads depth l p e q) (hq : EndsLevel l q.lookahead) :
    Course none depth l none p (.ok e) q := by
  unfold Leads at h
  split at h
  next hl => rwa [hl]
  next => exact h _ _ (.stop hq.operator?_eq_none)

/-- Tokens that derive a tree lead to it, if what follows does not continue an operand of theirs. -/
theorem leads_of_derives {strict : Bool} {l : Level} {tokens : List Token} {e : Expr}
    (d : Derives (Closes strict) l tokens e) : ∀ (depth : Nat) {p q : Parser}, p.strict = strict →
      Eats p tokens q → EndsLevel l.tighter q.lookahead → Leads depth l p e q := by
  induction d with
  | number n =>
    intro depth p q _ heats _
    obtain ⟨stands, -, r, hfetch, hrest⟩ := heats.of_cons
    cases hrest
    exact .number rfl stands hfetch
  | sign s _ ih =>
    intro depth p q hp heats hq
    obtain ⟨stands, -, r, hfetch, hrest⟩ := heats.of_cons
    have hr : r.strict = strict := (fetch_ok hfetch).1.trans hp
    exact .sign rfl stands hfetch ((ih _ hr hrest hq).course (endsLevel_operand _))
  | @group tokens e side _ closed ih =>
    intro depth p q hp heats _
    obtain ⟨stands, -, r, hfetch, hrest⟩ := heats.of_cons
    obtain ⟨s, hinner, hlast⟩ := hrest.of_append
    have hr : r.strict = strict := (fetch_ok hfetch).1.trans hp
    obtain ⟨hside, hclosed⟩ := close_of_eats hlast (by rwa [hinner.strict_eq, hr])
    have hends : ∀ l, EndsLevel l s.lookahead := fun l =>
      endsLevel_of_operator? (by rw [hside]; rfl)
    exact .group rfl stands hfetch ((ih _ hr hinner (hends _)).course (hends _)) hclosed
  | @single l tokens e joins _ ih =>
    intro depth p q hp heats hq
    have hoperand := (ih depth hp heats hq.tighter).course hq
    unfold Leads
    rw [if_neg joins]
    exact fun o r hrest => .first joins hoperand hrest
  | @join l before after left right op fits _ _ ih₁ ih₂ =>
    intro depth p q hp heats hq
    obtain ⟨r, hbefore, hrest⟩ := heats.of_append
    obtain ⟨hop, -, s, hfetch, hafter⟩ := hrest.of_cons
    subst fits
    have hr : r.strict = strict := hbefore.strict_eq.trans hp
    have hs : s.strict = strict := (fetch_ok hfetch).1.trans hr
    -- The left operands lead to the loop with their tree, and the loop takes one more operand.
    have hleft := ih₁ depth hp hbefore (by rw [hop]; exact endsLevel_token)
    have hright := (ih₂ depth hs hafter hq.tighter).course hq
    unfold Leads at hleft ⊢
    rw [if_neg op.level_ne_operand] at hleft ⊢
    exact fun o t hmore =>
      hleft o t (.join (Level.operator?_eq_some_iff.2 ⟨hop, rfl⟩) hfetch hright hmore)

/-- Tokens that derive a tree are parsed as that tree, if what follows does not continue them. -/
theorem course_of_derives {strict : Bool} {l : Level} {tokens : List Token} {e : Expr}
    {depth : Nat} {p q : Parser} (d : Derives (Closes strict) l tokens e) (hp : p.strict = strict)
    (heats : Eats p tokens q) (hq : EndsLevel l q.lookahead) :
    Course none depth l none p (.ok e) q :=
  (leads_of_derives d depth hp heats hq.tighter).course hq

end Parser

end Calculator
