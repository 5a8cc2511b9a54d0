/-
What the course of a run depends on: the tokens that it takes, and of the token
in front of which it stops no more than what the rules can tell apart.

`Course.replays` says this of two parsers. A run takes some tokens one after
another and then stays there with its outcome, or fails to read the token behind
the one it takes (`LeavesLike`). Any other parser that takes the same tokens, stands
before an alike token and is left in the same way goes the same course, whatever
its text and whatever is behind.
-/
import Calculator.Proofs.Expr.Grammar
import Calculator.Proofs.Token.Continuation

namespace Calculator

/-! ## Tokens that no rule tells apart -/

namespace Token.Alike

variable {t t' : Token}

theorem kind_eq (h : t.Alike t') : t'.kind = t.kind := by cases h <;> rfl

theorem operator?_eq (h : t.Alike t') (l : Level) : l.operator? t' = l.operator? t := by
  cases h <;> rfl

theorem beginsOperand (h : t.Alike t') :
    Parser.BeginsOperand t ↔ Parser.BeginsOperand t' := by
  cases h <;> rfl

theorem eq_of_ne_integer (h : t.Alike t') (ht : t.kind ≠ .integer) : t' = t := by
  cases h
  · rfl
  · exact absurd rfl ht

theorem eq_endOfText_iff (h : t.Alike t') : t' = .endOfText ↔ t = .endOfText := by
  cases h <;> simp

end Token.Alike

namespace Parser

variable {α β : Type}

/-! ## How a run leaves its parser -/

/-- The outcome is a lexical error. -/
def IsLexical (o : Except ExpressionError α) : Prop := ∃ e, o = .error (.lexical e)

theorem not_isLexical_ok (a : α) : ¬IsLexical (.ok a) := nofun

theorem not_isLexical_grammatical (g : GrammarError) :
    ¬IsLexical (.error (.grammatical g) : Except ExpressionError α) := nofun

theorem IsLexical.of_map {o : Except ExpressionError α} {f : α → β} (h : IsLexical (o.map f)) :
    IsLexical o := by
  obtain ⟨e, h⟩ := h
  cases o with
  | error _ => exact ⟨e, congrArg _ (Except.error.inj h)⟩
  | ok _ => cases h

theorem exists_lexical_of_fetch {p q : Parser} {e : ExpressionError} (h : p.fetch = (.error e, q)) :
    ∃ e', e = .lexical e' := by
  rcases hn : p.cursor.next with ⟨e' | t, c⟩
  · rw [fetch_of_next_error hn] at h
    cases h
    exact ⟨e', rfl⟩
  · rw [fetch_of_next_ok hn] at h
    cases h

/-- A run that has taken its last token in becoming `r` comes to the outcome `o'` and leaves `q`, in
the way of a run that comes to `o`: it stays at `r` with the same outcome, or it is about to take
one token more and, like the other, cannot read the next. -/
inductive LeavesLike : Except ExpressionError α → Parser → Except ExpressionError α → Parser →
    Prop where
  | stays {o : Except ExpressionError α} {r : Parser} (answers : ¬IsLexical o) : LeavesLike o r o r
  | unread {r q : Parser} {e e' : LexicalError} (fetch : r.fetch = (.error (.lexical e'), q)) :
      LeavesLike (.error (.lexical e)) r (.error (.lexical e')) q

namespace LeavesLike

variable {r q : Parser} {o o' : Except ExpressionError α}

theorem map (h : LeavesLike o r o' q) (f : α → β) : LeavesLike (o.map f) r (o'.map f) q := by
  cases h with
  | stays answers => exact .stays fun h => answers h.of_map
  | unread fetch => exact .unread fetch

theorem of_map {f : α → β} {o' : Except ExpressionError β} (h : LeavesLike (o.map f) r o' q) :
    ∃ o'', o' = o''.map f ∧ LeavesLike o r o'' q := by
  generalize heq : o.map f = u at h
  cases h with
  | stays answers =>
    refine ⟨o, heq.symm, .stays ?_⟩
    rintro ⟨e, rfl⟩
    exact answers ⟨e, heq.symm⟩
  | @unread _ _ e e' fetch =>
    cases o with
    | error _ =>
      cases heq
      exact ⟨.error (.lexical e'), rfl, .unread fetch⟩
    | ok _ => cases heq

theorem eq_of_answers (h : LeavesLike o r o' q) (answers : ¬IsLexical o) : o' = o ∧ q = r := by
  cases h with
  | stays _ => exact ⟨rfl, rfl⟩
  | unread _ => exact absurd ⟨_, rfl⟩ answers

theorem of_error {e : ExpressionError}
    (h : LeavesLike (.error e : Except ExpressionError α) r o' q) : ∃ e', o' = .error e' := by
  cases h <;> exact ⟨_, rfl⟩

end LeavesLike

/-- Parsers that take the same tokens and end before alike ones begin before alike ones. -/
theorem Eats.alike {p q p' q' : Parser} {ts : List Token} (h : Eats p ts q) (h' : Eats p' ts q')
    (halike : q.lookahead.Alike q'.lookahead) : p.lookahead.Alike p'.lookahead := by
  cases h with
  | nil =>
    cases h'
    exact halike
  | cons _ _ _ =>
    rw [h'.of_cons.1]
    exact .same _

/-! ## What depends on its tokens only -/

/-- A run from `p` to `q` with the outcome `o` takes some tokens and then stays, or fails to read
the token behind the next; and a parser of the same strictness that takes these tokens too, and
then stands before an alike one, is led as far. -/
def Replays (Leads : Parser → Except ExpressionError α → Parser → Prop) (p : Parser)
    (o : Except ExpressionError α) (q : Parser) : Prop :=
  ∃ ts r, Eats p ts r ∧ LeavesLike o r o q ∧
    ∀ p' r' o' q', p'.strict = p.strict → Eats p' ts r' → r.lookahead.Alike r'.lookahead →
      LeavesLike o r' o' q' → Leads p' o' q'

/-- The runs of a kind that fail. -/
def Fails (Leads : Parser → Except ExpressionError α → Parser → Prop) (p : Parser)
    (o : Except ExpressionError α) (q : Parser) : Prop :=
  ∃ e, o = .error e ∧ Leads p (.error e) q

/-- A run of one kind with this result, and then one of another kind. -/
def Then (Leads : Parser → Except ExpressionError α → Parser → Prop) (a : α)
    (Goes : Parser → Except ExpressionError β → Parser → Prop) (p : Parser)
    (o : Except ExpressionError β) (r : Parser) : Prop :=
  ∃ q, Leads p (.ok a) q ∧ Goes q o r

namespace Replays

variable {Leads Leads' : Parser → Except ExpressionError α → Parser → Prop}
  {Goes : Parser → Except ExpressionError β → Parser → Prop} {p q r : Parser}

theorem mono {o : Except ExpressionError α} (h : Replays Leads p o q)
    (imp : ∀ p' o' q', Leads p' o' q' → Leads' p' o' q') : Replays Leads' p o q := by
  obtain ⟨ts, r, heats, hleaves, hreplay⟩ := h
  exact ⟨ts, r, heats, hleaves, fun p' r' o' q' hstrict htakes halike hends =>
    imp p' o' q' (hreplay p' r' o' q' hstrict htakes halike hends)⟩

theorem stays {o : Except ExpressionError α} (answers : ¬IsLexical o)
    (h : ∀ p' : Parser, p'.strict = p.strict → p.lookahead.Alike p'.lookahead → Leads p' o p') :
    Replays Leads p o p := by
  refine ⟨[], p, .nil, .stays answers, fun p' r' o' q' hstrict heats halike hleaves => ?_⟩
  cases heats
  obtain ⟨rfl, rfl⟩ := hleaves.eq_of_answers answers
  exact h _ hstrict halike

theorem unread {e : ExpressionError} (fetch : p.fetch = (.error e, q))
    (h : ∀ (p' : Parser) e' q', p'.strict = p.strict → p.lookahead.Alike p'.lookahead →
      p'.fetch = (.error e', q') → Leads p' (.error e') q') : Replays Leads p (.error e) q := by
  obtain ⟨e, rfl⟩ := exists_lexical_of_fetch fetch
  refine ⟨[], p, .nil, .unread fetch, fun p' r' o' q' hstrict heats halike hleaves => ?_⟩
  cases heats
  cases hleaves with
  | stays answers => exact absurd ⟨e, rfl⟩ answers
  | unread fetch' => exact h _ _ _ hstrict halike fetch'

theorem cons {o : Except ExpressionError α} {t : Token} (stands : p.lookahead = t)
    (ht : t ≠ .endOfText) (fetch : p.fetch = (.ok (), q)) (h : Replays Leads q o r)
    (step : ∀ p' q' o' r', p'.strict = p.strict → p'.lookahead = t → p'.fetch = (.ok (), q') →
      Leads q' o' r' → Leads' p' o' r') : Replays Leads' p o r := by
  obtain ⟨ts, s, heats, hleaves, hreplay⟩ := h
  refine ⟨t :: ts, s, .of_fetch stands ht fetch heats, hleaves,
    fun p' s' o' r' hstrict htakes halike hleaves' => ?_⟩
  obtain ⟨stands', -, q', hfetch, hrest⟩ := htakes.of_cons
  have hq : q'.strict = q.strict := by rw [(fetch_ok hfetch).1, (fetch_ok fetch).1, hstrict]
  exact step p' q' o' r' hstrict stands' hfetch (hreplay q' s' o' r' hq hrest halike hleaves')

theorem append {a : α} {o : Except ExpressionError β} (h : Replays Leads p (.ok a) q)
    (h' : Replays Goes q o r) : Replays (Then Leads a Goes) p o r := by
  obtain ⟨ts, _, heats, hleaves, hreplay⟩ := h
  obtain ⟨-, rfl⟩ := hleaves.eq_of_answers (not_isLexical_ok a)
  obtain ⟨us, s, heats', hleaves', hreplay'⟩ := h'
  refine ⟨ts ++ us, s, heats.append heats', hleaves',
    fun p' s' o' r' hstrict htakes halike hends => ?_⟩
  obtain ⟨q', hfirst, hrest⟩ := htakes.of_append
  have hq : q'.strict = q.strict := by rw [hfirst.strict_eq, heats.strict_eq, hstrict]
  have hmiddle := heats'.alike hrest halike
  exact ⟨q', hreplay p' q' _ q' hstrict hfirst hmiddle (.stays (not_isLexical_ok a)),
    hreplay' q' s' o' r' hq hrest halike hends⟩

theorem map {o : Except ExpressionError α} (f : α → β)
    (h : Replays (fun p o q => Goes p (o.map f) q) p o q) : Replays Goes p (o.map f) q := by
  obtain ⟨ts, r, heats, hleaves, hreplay⟩ := h
  refine ⟨ts, r, heats, hleaves.map f, fun p' r' o' q' hstrict htakes halike hleaves' => ?_⟩
  obtain ⟨o'', rfl, hends⟩ := hleaves'.of_map
  exact hreplay p' r' o'' q' hstrict htakes halike hends

theorem fails {e : ExpressionError} (h : Replays Leads p (.error e) q) :
    Replays (Fails Leads) p (.error e) q := by
  obtain ⟨ts, r, heats, hleaves, hreplay⟩ := h
  refine ⟨ts, r, heats, hleaves, fun p' r' o' q' hstrict htakes halike hleaves' => ?_⟩
  obtain ⟨e', rfl⟩ := hleaves'.of_error
  exact ⟨e', rfl, hreplay p' r' _ q' hstrict htakes halike hleaves'⟩

end Replays

/-! ## Groups -/

theorem close_refused {p : Parser}
    (h : ∀ side, p.lookahead = .paren side → ¬Closes p.strict side) :
    ∃ g, ∀ p' : Parser, p'.strict = p.strict → p.lookahead.Alike p'.lookahead →
      p'.close = (.error (.grammatical g), p') := by
  by_cases hopen : p.strict ∧ p.lookahead = .paren .opening
  · refine ⟨.groupReopened, fun p' hstrict halike => ?_⟩
    unfold close
    rw [halike.eq_of_ne_integer (by rw [hopen.2]; nofun), hstrict, if_pos hopen]
  · refine ⟨.mismatch .paren p.lookahead.kind, fun p' hstrict halike => ?_⟩
    have hkind : p.lookahead.kind ≠ .paren := by
      intro hkind
      obtain ⟨side, hside, hcloses⟩ := exists_closes_of_kind hkind hopen
      exact h side hside hcloses
    have hopen' : ¬(p'.strict ∧ p'.lookahead = .paren .opening) := by
      rintro ⟨_, ho⟩
      exact hkind (by rw [← halike.kind_eq, ho]; rfl)
    unfold close eat
    rw [if_neg hopen', halike.kind_eq, if_neg hkind]

theorem close_replays {p q : Parser} {o : Except ExpressionError Unit} (h : p.close = (o, q)) :
    Replays (fun p o q => p.close = (o, q)) p o q := by
  by_cases hcloses : ∃ side, p.lookahead = .paren side ∧ Closes p.strict side
  · obtain ⟨side, stands, closes⟩ := hcloses
    rw [close_eq_fetch stands closes] at h
    cases o with
    | ok u =>
      have hdone : Replays (fun q o r => o = .ok u ∧ r = q) q (.ok u) q :=
        .stays (not_isLexical_ok u) fun _ _ _ => ⟨rfl, rfl⟩
      refine hdone.cons stands nofun h fun p' q' o' r' hstrict stands' fetch' hend => ?_
      obtain ⟨rfl, rfl⟩ := hend
      rw [close_eq_fetch stands' (hstrict ▸ closes), fetch']
    | error e =>
      refine .unread h fun p' e' q' hstrict halike fetch' => ?_
      have stands' := halike.eq_of_ne_integer (by rw [stands]; nofun)
      rw [close_eq_fetch (stands'.trans stands) (hstrict ▸ closes), fetch']
  · obtain ⟨g, hrefused⟩ := close_refused fun side stands closes => hcloses ⟨side, stands, closes⟩
    cases h.symm.trans (hrefused p rfl (.same _))
    exact .stays (not_isLexical_grammatical g) hrefused

/-! ## Courses -/

/-- **The course of a run depends on the tokens it takes,** and on nothing more of the token it
stops before than its kind and its character. -/
theorem Course.replays {limit : Option Nat} {depth : Nat} {l : Level} {left : Option Expr}
    {p q : Parser} {o : Except ExpressionError Expr} (h : Course limit depth l left p o q) :
    Replays (Course limit depth l left) p o q := by
  -- Each constructor is put together from its parts by the lemmas above, and put together again
  -- in the same way for the other parser.
  induction h with
  | tooDeep deep =>
    refine .stays (not_isLexical_grammatical _) fun p' _ halike => ?_
    rw [← halike.kind_eq]
    exact .tooDeep deep
  | noOperand shallow stands =>
    refine .stays (not_isLexical_grammatical _) fun p' _ halike => ?_
    rw [← halike.kind_eq]
    exact .noOperand shallow (mt halike.beginsOperand.2 stands)
  | unreadOperand shallow stands fetch =>
    exact .unread fetch fun _ _ _ _ halike fetch' =>
      .unreadOperand shallow (halike.beginsOperand.1 stands) fetch'
  | @number _ n p q shallow stands fetch =>
    have hdone : Replays (fun q o r => o = .ok (Expr.number n) ∧ r = q) q (.ok (Expr.number n)) q :=
      .stays (not_isLexical_ok _) fun _ _ _ => ⟨rfl, rfl⟩
    refine hdone.cons stands nofun fetch fun p' q' o' r' _ stands' fetch' hend => ?_
    obtain ⟨rfl, rfl⟩ := hend
    exact .number shallow stands' fetch'
  | @sign depth p q r sign o shallow stands fetch _ ih =>
    have hsigned : Replays
        (fun p o r => Course limit depth .operand none p (o.map (.unary sign)) r) p o r :=
      ih.cons stands nofun fetch fun _ _ _ _ _ stands' fetch' h => .sign shallow stands' fetch' h
    exact hsigned.map
  | badGroup shallow stands fetch _ ih =>
    refine ih.fails.cons stands nofun fetch fun p' q' o' r' _ stands' fetch' hinner => ?_
    obtain ⟨e', rfl, hinner⟩ := hinner
    exact .badGroup shallow stands' fetch' hinner
  | @group depth p q r s e o shallow stands fetch _ closed ih =>
    have hgroup : Replays (fun p o s => Course limit depth .operand none p (o.map fun _ => e) s)
        p o s := by
      refine (ih.append (close_replays closed)).cons stands nofun fetch
        fun p' q' o' s' _ stands' fetch' hinner => ?_
      obtain ⟨r', hinner, hclose⟩ := hinner
      exact .group shallow stands' fetch' hinner hclose
    exact hgroup.map
  | badFirst joins _ ih =>
    refine ih.fails.mono fun p' o' q' hoperand => ?_
    obtain ⟨e', rfl, hoperand⟩ := hoperand
    exact .badFirst joins hoperand
  | first joins _ _ ih₁ ih₂ =>
    refine (ih₁.append ih₂).mono fun p' o' r' h => ?_
    obtain ⟨q', hoperand, hrest⟩ := h
    exact .first joins hoperand hrest
  | stop stands =>
    exact .stays (not_isLexical_ok _) fun _ _ halike =>
      .stop ((halike.operator?_eq _).trans stands)
  | unreadOperator stands fetch =>
    exact .unread fetch fun _ _ _ _ halike fetch' =>
      .unreadOperator ((halike.operator?_eq _).trans stands) fetch'
  | badNext stands fetch _ ih =>
    refine ih.fails.cons rfl (Level.ne_endOfText_of_operator? stands) fetch
      fun p' q' o' r' _ stands' fetch' hoperand => ?_
    obtain ⟨e', rfl, hoperand⟩ := hoperand
    exact .badNext (stands' ▸ stands) fetch' hoperand
  | join stands fetch _ _ ih₁ ih₂ =>
    refine (ih₁.append ih₂).cons rfl (Level.ne_endOfText_of_operator? stands) fetch
      fun p' q' o' s' _ stands' fetch' h => ?_
    obtain ⟨r', hoperand, hrest⟩ := h
    exact .join (stands' ▸ stands) fetch' hoperand hrest

end Parser

end Calculator
