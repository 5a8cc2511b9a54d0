/-
Strict parsing against loose parsing of the same text: strictness takes answers
away and changes none (`interpret_tightens`).

The two parsers differ in one flag, which is looked at where a group ends and
behind a whole expression. So the strict one goes in lockstep with the loose one
until a group is closed by an opening parenthesis, which is where it stops; and
if it comes to the end of the expression with it, it may still refuse what stands
behind.
-/
import Calculator.Interpretation
import Calculator.Proofs.Expr.Eating
import Calculator.Proofs.Expr.Lockstep

namespace Calculator

open Calculator.Parser

/-! ## Outcomes of strict and of loose parsing -/

/-- Strict parsing succeeds only with the result of loose parsing. Where it does not have the
outcome of loose parsing, it expects the end or, the one way if loose parsing fails too, the closing
parenthesis. -/
structure Tightens {α : Type} (loose strict : Except ExpressionError α) : Prop where
  accepts : ∀ a, strict = .ok a → loose = .ok a
  refuses : ∀ a, loose = .ok a → strict = .ok a ∨
    ∃ g, strict = .error (.grammatical g) ∧ g.expected ∈ ["EOF", "PAREN(')')"]
  lexical : ∀ e, strict = .error (.lexical e) → loose = .error (.lexical e)
  fails : ∀ e, loose = .error e → strict = .error e ∨
    ∃ g, strict = .error (.grammatical g) ∧ g.expected = "PAREN(')')"

namespace Tightens

variable {α β : Type} {loose strict : Except ExpressionError α} {g : GrammarError}

theorem refl (o : Except ExpressionError α) : Tightens o o where
  accepts _ h := h
  refuses _ h := .inl h
  lexical _ h := h
  fails _ h := .inl h

/-- A strict parser may miss the closing parenthesis whatever loose parsing comes to. -/
theorem reopened (h : g.expected = "PAREN(')')") :
    Tightens loose (.error (.grammatical g)) where
  accepts _ heq := nomatch heq
  refuses _ _ := .inr ⟨g, rfl, by simp [h]⟩
  lexical _ heq := nomatch heq
  fails _ _ := .inr ⟨g, rfl, h⟩

/-- It may miss the end only where loose parsing succeeds. -/
theorem unfinished (a : α) (h : g.expected ∈ ["EOF", "PAREN(')')"]) :
    Tightens (.ok a) (.error (.grammatical g)) where
  accepts _ heq := nomatch heq
  refuses _ _ := .inr ⟨g, rfl, h⟩
  lexical _ heq := nomatch heq
  fails _ heq := nomatch heq

theorem map (f : α → β) (h : Tightens loose strict) : Tightens (loose.map f) (strict.map f) := by
  cases strict with
  | ok a =>
    rw [h.accepts a rfl]
    exact refl _
  | error e =>
    cases e with
    | lexical e =>
      rw [h.lexical e rfl]
      exact refl _
    | grammatical g =>
      cases loose with
      | ok a =>
        obtain heq | ⟨g', heq, hg⟩ := h.refuses a rfl <;> cases heq
        exact unfinished _ hg
      | error e =>
        obtain heq | ⟨g', heq, hg⟩ := h.fails e rfl <;> cases heq
        · exact refl _
        · exact reopened hg

end Tightens

namespace Parser

/-! ## The two parsers in lockstep -/

/-- The first parser is loose, and the second is strict and otherwise the same. -/
def Stricter (p p' : Parser) : Prop := p.strict = false ∧ p' = { p with strict := true }

theorem fetch_stricter {p p' q : Parser} {o : Except ExpressionError Unit} (hp : Stricter p p')
    (h : p.fetch = (o, q)) : ∃ q', p'.fetch = (o, q') ∧ Stricter q q' := by
  obtain ⟨hloose, rfl⟩ := hp
  rcases hn : p.cursor.next with ⟨e | t, c⟩
  · rw [fetch_of_next_error hn] at h
    cases h
    exact ⟨_, fetch_of_next_error hn, hloose, rfl⟩
  · rw [fetch_of_next_ok hn] at h
    cases h
    exact ⟨_, fetch_of_next_ok hn, hloose, rfl⟩

/-- A group is closed alike, unless by an opening parenthesis. -/
theorem close_stricter {p p' q : Parser} {o : Except ExpressionError Unit} (hp : Stricter p p')
    (h : p.close = (o, q)) : (∃ q', p'.close = (o, q') ∧ Stricter q q') ∨
      p'.close = (.error (.grammatical .groupReopened), p') := by
  obtain ⟨hloose, rfl⟩ := hp
  unfold close at *
  rw [if_neg (by simp [hloose])] at h
  by_cases hopen : p.lookahead = .paren .opening
  · exact .inr (if_pos ⟨rfl, hopen⟩)
  · refine .inl ?_
    rw [if_neg fun ⟨_, ho⟩ => hopen ho]
    unfold eat at *
    split at h
    next hkind =>
      rw [if_pos hkind]
      exact fetch_stricter ⟨hloose, rfl⟩ h
    next hkind =>
      cases h
      exact ⟨_, if_neg hkind, hloose, rfl⟩

/-- A strict parser does what the loose one does, or stops where a group is reopened. -/
theorem lockstep_strict (limit : Option Nat) :
    Lockstep limit limit Stricter (· = .grammatical .groupReopened) where
  lookahead := by
    rintro p _ ⟨-, rfl⟩
    rfl
  fetch := fetch_stricter
  close hp h := (close_stricter hp h).imp_right fun heq => ⟨_, _, rfl, heq⟩
  deep _ _ := .inl rfl

theorem treeWithin_tightens (limit : Option Nat) {p p' : Parser} (hp : Stricter p p') :
    Tightens (p.treeWithin limit).1 (p'.treeWithin limit).1 := by
  rcases hexpr : p.expression limit with ⟨o, q⟩
  unfold treeWithin
  obtain ⟨q', hc, hloose, rfl⟩ | ⟨_, q', rfl, hc⟩ :=
    (expression_eq_iff.1 hexpr).follow (lockstep_strict limit) hp
  · rw [hexpr, expression_eq_iff.2 hc]
    cases o with
    | error e => exact .refl _
    | ok e =>
      dsimp only
      unfold finish
      rw [if_neg (by simp [hloose])]
      split
      · exact .unfinished e List.mem_cons_self
      · exact .refl _
  · -- Here the loose parser has gone on, to any outcome.
    rw [expression_eq_iff.2 hc]
    exact .reopened rfl

end Parser

/-! ## Whole texts -/

theorem parseWithin_tightens (limit : Option Nat) (text : List Char) :
    Tightens (parseWithin limit false text) (parseWithin limit true text) := by
  unfold parseWithin ofText
  rcases (Cursor.start text).next with ⟨e | t, c⟩
  · exact .refl (.error (.lexical e))
  · exact treeWithin_tightens _ ⟨rfl, rfl⟩

/-- **Strictness only tightens.** A strict parser succeeds on no other text than a loose one, and
with no other tree, and so with no other value and steps. Where it does not do what the loose one
does it says that the end or the closing parenthesis is due; it never hides a failure of the loose
one behind anything but the closing parenthesis, and it meets no character that the loose one does
not meet. -/
theorem interpret_tightens (text : List Char) :
    Tightens (parse false text) (parse true text) ∧
      Tightens (interpret false text) (interpret true text) :=
  ⟨parseWithin_tightens _ text, (parseWithin_tightens _ text).map Expr.evaluate⟩

end Calculator
