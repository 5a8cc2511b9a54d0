/-
Which tokens the parser refuses, where, and with which words (`tree_refuses`).

An expression stands before an operand or behind one, inside the groups that are
open (`Place`). The tokens lead it from place to place (`Place.next?`), and there
is a table of what is said of a token that leads nowhere (`Place.refusal?`). The
parser knows nothing of places. It keeps to them because a level that succeeds
stops behind an operand (`Derives.after?`), and before a token that is no
operator (`Course.sound`); so wherever a level fails, what it says of its
lookahead is in the table (`Course.refuses`).
-/
import Calculator.Proofs.Expr.History
import Calculator.Proofs.Expr.Nesting

namespace Calculator

/-! ## Places -/

/-- Where an expression stands: before an operand or behind one, inside so many open groups. -/
inductive Place where
  | before (groups : Nat)
  | behind (groups : Nat)
  deriving DecidableEq, Repr

namespace Place

/-- The place that a token leads to. Behind an operand a parenthesis closes the innermost group; the
opening one does so too, unless the parser is strict. -/
def next? (strict : Bool) : Place → Token → Option Place
  | before groups, .integer _ => some (behind groups)
  | before groups, .additive _ => some (before groups)
  | before groups, .paren .opening => some (before (groups + 1))
  | behind groups, .additive _ => some (before groups)
  | behind groups, .multiplicative _ => some (before groups)
  | behind groups, .power => some (before groups)
  | behind (groups + 1), .paren .closing => some (behind groups)
  | behind (groups + 1), .paren .opening => if strict then none else some (behind groups)
  | _, _ => none

/-- The place that tokens lead to, one after another. -/
def after? (strict : Bool) (place : Place) (tokens : List Token) : Option Place :=
  tokens.foldlM (next? strict) place

/-- What is expected at the place instead of the token, and what is said to be found. Behind an
operand in no group, only a strict parser expects anything. -/
def refusal? (strict : Bool) : Place → Token → Option (String × String)
  | before _, .multiplicative _ => some ("PAREN('(') | ADDITIVE_OP | INTEGER", "MULTIPLICATIVE_OP")
  | before _, .power => some ("PAREN('(') | ADDITIVE_OP | INTEGER", "POWER")
  | before _, .paren .closing => some ("PAREN('(') | ADDITIVE_OP | INTEGER", "PAREN")
  | before _, .endOfText => some ("PAREN('(') | ADDITIVE_OP | INTEGER", "EOF")
  | behind (_ + 1), .integer _ => some ("PAREN", "INTEGER")
  | behind (_ + 1), .endOfText => some ("PAREN", "EOF")
  | behind (_ + 1), .paren .opening => if strict then some ("PAREN(')')", "PAREN('(')") else none
  | behind 0, .integer _ => if strict then some ("EOF", "INTEGER") else none
  | behind 0, .paren _ => if strict then some ("EOF", "PAREN") else none
  | _, _ => none

/-- Where a level stands inside its groups: before its first operand, or behind what it has folded
so far. -/
def ofLeft (groups : Nat) : Option Expr → Place
  | none => before groups
  | some _ => behind groups

theorem refusal?_eq_none_iff {strict : Bool} {place : Place} {t : Token} :
    place.refusal? strict t = none ↔
      (place.next? strict t).isSome ∨ place = behind 0 ∧ (strict = true → t = .endOfText) := by
  cases strict <;> rcases place with groups | _ | groups <;> rcases t with _ | _ | _ | _ | side | _
  all_goals first
    | cases side <;> simp [refusal?, next?]
    | simp [refusal?, next?]

theorem next?_operator (strict : Bool) (groups : Nat) (op : Operator) :
    next? strict (behind groups) op.token = some (before groups) := by
  cases op <;> cases groups <;> rfl

theorem next?_closes {strict : Bool} {side : Paren} (closes : Closes strict side) (groups : Nat) :
    next? strict (behind (groups + 1)) (.paren side) = some (behind groups) := by
  cases side with
  | closing => rfl
  | opening =>
    cases strict with
    | false => rfl
    | true => cases closes

theorem after?_cons {strict : Bool} {s s' : Place} {t : Token} (h : next? strict s t = some s')
    (ts : List Token) : after? strict s (t :: ts) = after? strict s' ts := by
  rw [after?, List.foldlM_cons, h]
  rfl

theorem after?_append {strict : Bool} {s s' : Place} {ts : List Token}
    (h : after? strict s ts = some s') (us : List Token) :
    after? strict s (ts ++ us) = after? strict s' us := by
  rw [after?] at h
  rw [after?, List.foldlM_append, h]
  rfl

end Place

open Place

/-- An expression leads from before an operand to behind one, in the same groups. -/
theorem Derives.after? {strict : Bool} {l : Level} {tokens : List Token} {e : Expr}
    (d : Derives (Closes strict) l tokens e) (groups : Nat) :
    after? strict (before groups) tokens = some (behind groups) := by
  induction d generalizing groups with
  | number n => rfl
  | sign s _ ih => exact (after?_cons rfl _).trans (ih groups)
  | group _ closed ih =>
    rw [after?_cons rfl, after?_append (ih (groups + 1)), after?_cons (next?_closes closed groups)]
    rfl
  | single _ _ ih => exact ih groups
  | @join _ _ _ _ _ op _ _ _ ih₁ ih₂ =>
    rw [after?_append (ih₁ groups), after?_cons (next?_operator strict groups op)]
    exact ih₂ groups

namespace Parser

/-! ## Refusing -/

/-- From the place, the parser takes tokens that lead to another one, and refuses its lookahead
there with this error. -/
def Refuses (place : Place) (p : Parser) (g : GrammarError) (q : Parser) : Prop :=
  ∃ ts there, Eats p ts q ∧ place.after? p.strict ts = some there ∧
    there.refusal? p.strict q.lookahead = some (g.expected, g.found)

namespace Refuses

variable {place place' : Place} {p q r : Parser} {g : GrammarError} {ts : List Token} {t : Token}

theorem here (h : place.refusal? p.strict p.lookahead = some (g.expected, g.found)) :
    Refuses place p g p :=
  ⟨[], place, .nil, rfl, h⟩

theorem after (taken : Eats p ts q) (leads : place.after? p.strict ts = some place')
    (h : Refuses place' q g r) : Refuses place p g r := by
  obtain ⟨us, there, heats, hafter, hrefusal⟩ := h
  rw [taken.strict_eq] at hafter hrefusal
  exact ⟨ts ++ us, there, taken.append heats, (after?_append leads us).trans hafter, hrefusal⟩

theorem cons (stands : p.lookahead = t) (ht : t ≠ .endOfText) (fetch : p.fetch = (.ok (), q))
    (leads : place.next? p.strict t = some place') (h : Refuses place' q g r) :
    Refuses place p g r :=
  .after (.of_fetch stands ht fetch .nil) (after?_cons leads []) h

end Refuses

theorem refusal?_noOperand {t : Token} (h : ¬BeginsOperand t) (strict : Bool) (groups : Nat) :
    (before groups).refusal? strict t =
      some ((GrammarError.noOperand t.kind).expected, (GrammarError.noOperand t.kind).found) := by
  cases t with
  | integer n => exact absurd trivial h
  | additive sign => exact absurd trivial h
  | paren side =>
    cases side with
    | opening => exact absurd trivial h
    | closing => rfl
  | _ => rfl

theorem close_refuses {p q : Parser} {g : GrammarError}
    (h : p.close = (.error (.grammatical g), q)) (ends : EndsLevel .sum p.lookahead)
    (groups : Nat) : Refuses (behind (groups + 1)) p g q := by
  unfold close eat at h
  split at h
  next hopen =>
    cases h
    refine .here ?_
    rw [hopen.1, hopen.2]
    rfl
  next =>
    split at h
    next => exact nomatch (exists_lexical_of_fetch h).choose_spec
    next hkind =>
      cases h
      refine .here ?_
      rw [endsLevel_sum_iff] at ends
      generalize p.lookahead = t at ends hkind
      cases t <;> first | rfl | simp [Token.kind] at ends hkind

/-- **Wherever a level fails, what it says of its lookahead is in the table.** -/
theorem Course.refuses {limit : Option Nat} {depth : Nat} {l : Level} {left : Option Expr}
    {p q : Parser} {o : Except ExpressionError Expr} (h : Course limit depth l left p o q) :
    ∀ g, o = .error (.grammatical g) → ¬IsTooDeep o →
      ∀ groups, Refuses (.ofLeft groups left) p g q := by
  induction h with
  | tooDeep _ => exact fun _ _ shallow => absurd ⟨_, rfl⟩ shallow
  | number _ _ _ | stop _ => exact nofun
  | noOperand _ stands =>
    intro g hg _ groups
    cases hg
    exact .here (refusal?_noOperand stands _ groups)
  | unreadOperand _ _ fetch | unreadOperator _ fetch =>
    intro g hg
    cases hg
    exact nomatch (exists_lexical_of_fetch fetch).choose_spec
  | @sign _ p q r sign o _ stands fetch _ ih =>
    intro g hg shallow groups
    cases o with
    | ok _ => cases hg
    | error _ =>
      cases hg
      exact (ih g rfl shallow groups).cons stands nofun fetch rfl
  | @badGroup _ p q r e _ stands fetch _ ih =>
    intro g hg shallow groups
    cases hg
    exact (ih g rfl shallow (groups + 1)).cons stands nofun fetch rfl
  | @group _ p q r s e o _ stands fetch inner closed _ =>
    intro g hg _ groups
    cases o with
    | ok _ => cases hg
    | error _ =>
      cases hg
      obtain ⟨hends, tokens, heats, hderives⟩ := inner.sound e rfl nofun
      exact ((close_refuses closed hends groups).after heats
        (hderives.after? (groups + 1))).cons stands nofun fetch rfl
  | badFirst _ _ ih =>
    intro g hg shallow groups
    cases hg
    exact ih g rfl shallow groups
  | @first _ l p q r left o _ operand _ _ ih =>
    intro g hg shallow groups
    obtain ⟨-, tokens, heats, hderives⟩ := operand.sound left rfl nofun
    exact (ih g hg shallow groups).after heats (hderives.after? groups)
  | @badNext _ l p q r left op e stands fetch _ ih =>
    intro g hg shallow groups
    cases hg
    obtain ⟨hop, -⟩ := Level.operator?_eq_some_iff.1 stands
    exact (ih g rfl shallow groups).cons hop (hop ▸ Level.ne_endOfText_of_operator? stands) fetch
      (next?_operator _ groups op)
  | @join _ l p q r s left right op o stands fetch operand _ _ ih =>
    intro g hg shallow groups
    obtain ⟨hop, -⟩ := Level.operator?_eq_some_iff.1 stands
    obtain ⟨-, tokens, heats, hderives⟩ := operand.sound right rfl nofun
    exact ((ih g hg shallow groups).after heats (hderives.after? groups)).cons hop
      (hop ▸ Level.ne_endOfText_of_operator? stands) fetch (next?_operator _ groups op)

theorem finish_refuses {e : Expr} {p q : Parser} {g : GrammarError}
    (h : p.finish e = (.error (.grammatical g), q)) (ends : EndsLevel .sum p.lookahead) :
    Refuses (behind 0) p g q := by
  unfold finish at h
  split at h
  next hrest =>
    obtain ⟨hstrict, hend⟩ := hrest
    cases h
    refine .here ?_
    rw [endsLevel_sum_iff] at ends
    rw [hstrict]
    generalize p.lookahead = t at ends hend
    cases t <;> first | rfl | simp [Token.kind] at ends hend
  next => cases h

theorem treeWithin_refuses {limit : Option Nat} {p q : Parser} {g : GrammarError}
    (h : p.treeWithin limit = (.error (.grammatical g), q))
    (shallow : ∀ kind, g ≠ .tooDeep kind) : Refuses (before 0) p g q := by
  have shallow' : ¬IsTooDeep (.error (.grammatical g)) := by
    rintro ⟨kind, heq⟩
    cases heq
    exact shallow kind rfl
  unfold treeWithin at h
  rcases hexpr : p.expression limit with ⟨e | e, r⟩
  · rw [hexpr] at h
    cases h
    exact (expression_eq_iff.1 hexpr).refuses g rfl shallow' 0
  · rw [hexpr] at h
    obtain ⟨hends, tokens, heats, hderives⟩ := (expression_eq_iff.1 hexpr).sound e rfl nofun
    exact (finish_refuses h hends).after heats (hderives.after? 0)

/-- What is found is the lookahead, by its kind; the parenthesis that reopens a group is found by
its character too. -/
theorem found_of_refusal? {strict : Bool} {place : Place} {t : Token} {expected found : String}
    (h : place.refusal? strict t = some (expected, found)) :
    found = t.kind.name ∨ t = .paren .opening ∧ found = "PAREN('(')" := by
  unfold refusal? at h
  repeat' split at h
  all_goals first | (cases h; simp [Token.kind, TokenKind.name]) | cases h

/-- **The parser refuses what the table refuses,** in any state that it is asked for an expression.
A token that a rule takes is of the kind that the rule expects. If the parser refuses a token, that
is its lookahead when it ends, and is what the error says was found. Unless the nesting is too deep,
the tokens that it has taken by then lead to a place in the expression from where the lookahead
leads nowhere, and there the table has what the error says was expected. -/
theorem tree_refuses (p : Parser) :
    (∀ h : p.lookahead ≠ .endOfText, (p.take h).answer = p.eat p.lookahead.kind ∧
      ∀ g, (p.take h).outcome ≠ .error (.grammatical g)) ∧
    ∀ q g, p.tree = (.error (.grammatical g), q) →
      (g.found = q.lookahead.kind.name ∨
        q.lookahead = .paren .opening ∧ g.found = "PAREN('(')") ∧
      ((∀ kind, g ≠ .tooDeep kind) → ∃ ts there, Eats p ts q ∧
        (before 0).after? p.strict ts = some there ∧
        there.next? p.strict q.lookahead = none ∧
        there.refusal? p.strict q.lookahead = some (g.expected, g.found)) := by
  refine ⟨fun h => ⟨(answer_take p h).trans (eat_lookahead p).symm, fun g hg => ?_⟩,
    fun q g htree => ?_⟩
  · have hfetch : p.fetch = (.error (.grammatical g), p.fetch.2) := Prod.ext hg rfl
    exact nomatch (exists_lexical_of_fetch hfetch).choose_spec
  · by_cases deep : ∃ kind, g = .tooDeep kind
    · obtain ⟨kind, rfl⟩ := deep
      obtain ⟨heq, -⟩ := (course_of_treeWithin_tooDeep htree).passes ⟨kind, rfl⟩
      cases heq
      exact ⟨.inl rfl, fun shallow => absurd rfl (shallow _)⟩
    · have shallow : ∀ kind, g ≠ .tooDeep kind := fun kind hkind => deep ⟨kind, hkind⟩
      obtain ⟨ts, there, heats, hafter, hrefusal⟩ := treeWithin_refuses htree shallow
      have hnowhere : there.next? p.strict q.lookahead = none := by
        rw [← Option.not_isSome_iff_eq_none]
        intro hleads
        rw [refusal?_eq_none_iff.2 (.inl hleads)] at hrefusal
        cases hrefusal
      exact ⟨found_of_refusal? hrefusal, fun _ => ⟨ts, there, heats, hafter, hnowhere, hrefusal⟩⟩

/-- In `(1(` a strict parser comes behind the operand in the group, and expects its end there. -/
theorem tree_refuses_reopened : ∃ (p q : Parser) (ts : List Token) (there : Place),
    ofText true ['(', '1', '('] = .ok p ∧ Eats p ts q ∧
      (before 0).after? true ts = some there ∧
      there.refusal? true (.paren .opening) = some ("PAREN(')')", "PAREN('(')") := by
  let p : Parser := ⟨true, .paren .opening, ⟨1, ['1', '(']⟩, [⟨.paren .opening, 1⟩]⟩
  let q : Parser := ⟨true, .paren .opening, ⟨3, []⟩,
    [⟨.paren .opening, 3⟩, ⟨.integer 1, 2⟩, ⟨.paren .opening, 1⟩]⟩
  have hone : Cursor.Step ⟨1, ['1', '(']⟩ (.ok (.integer 1)) ⟨2, ['(']⟩ :=
    .token .nil (lexeme_toDigits 1) fun _ => stops_cons rfl []
  have hsum : Course (some depthLimit) (0 + groupDepth) .sum none
      ⟨true, .integer 1, ⟨2, ['(']⟩, [⟨.integer 1, 2⟩, ⟨.paren .opening, 1⟩]⟩ (.ok (.number 1)) q :=
    .first nofun (.first nofun (.first nofun (.number rfl rfl rfl) (.stop rfl)) (.stop rfl))
      (.stop rfl)
  have hclose : q.close = (.error (.grammatical .groupReopened), q) := rfl
  have hgroup : Course (some depthLimit) 0 .operand none p (.error (.grammatical .groupReopened)) q :=
    .group rfl rfl (fetch_of_next_ok hone.next_eq) hsum hclose
  have hcourse : Course (some depthLimit) 0 .sum none p (.error (.grammatical .groupReopened)) q :=
    .badFirst nofun (.badFirst nofun (.badFirst nofun hgroup))
  obtain ⟨ts, there, heats, hafter, -, hrefusal⟩ :=
    ((tree_refuses p).2 q _ (treeWithin_eq_error hcourse)).2 nofun
  exact ⟨p, q, ts, there, rfl, heats, hafter, hrefusal⟩

end Parser

end Calculator
