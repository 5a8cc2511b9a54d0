/-
The text of an expression tells its tree. It is written by recursion, whatever
lies on the two stacks of the walk, and expressions whose literals are written
out have the same text only if they are the same (`text_tells_tree`).

A text is read as one list of words, so what is to be shown is that the words
tell the tree. A minus sign behind a parenthesis may be a sign in parentheses or
begin a negative literal on the left of an operator: which of them is decided by
the word behind the operand, a parenthesis or an operator. So the words are
compared with anything behind them (`words_append_inj`).
-/
import Calculator.Proofs.Expr.Spelling
import Mathlib.Algebra.GroupWithZero.Nat

namespace Calculator

theorem Operator.token_inj {op op' : Operator} (h : op.token = op'.token) : op = op' :=
  Option.some.inj ((Token.operator?_eq_some_iff.2 rfl).symm.trans (Token.operator?_eq_some_iff.2 h))

namespace Expr

/-! ## Words -/

theorem literalWords_append_inj {m n : Int} {more more' : List Token}
    (h : literalWords m ++ more = literalWords n ++ more') : m = n ∧ more = more' := by
  unfold literalWords at h
  split at h <;> split at h <;> simp at h
  all_goals exact ⟨by omega, h.2⟩

theorem literalWords_append_ne (n : Int) (more more' : List Token) :
    literalWords n ++ more ≠ .paren .opening :: more' := by
  unfold literalWords
  split <;> simp

theorem eq_number_of_words_eq {e : Expr} {sign : Sign} {more more' : List Token}
    (h : .additive sign :: more = e.words ++ more') :
    ∃ n : Nat, e = number (-n) ∧ more = .integer n :: more' := by
  cases e with
  | number n =>
    rw [words, literalWords] at h
    split at h
    next hn =>
      simp at h
      exact ⟨n.natAbs, congrArg number (by omega), h.2⟩
    next => simp at h
  | _ => simp [words] at h

theorem eq_number_of_words_eq_integer {e : Expr} {n : Nat} {more more' : List Token}
    (h : .integer n :: more = e.words ++ more') : e = number n ∧ more = more' := by
  cases e with
  | number m =>
    rw [words, literalWords] at h
    split at h
    next => simp at h
    next hm =>
      simp at h
      exact ⟨congrArg number (by omega), h.2⟩
  | _ => simp [words] at h

/-- A sign in parentheses is no operator in parentheses, even if a minus sign begins both. -/
theorem unary_words_ne_binary (sign : Sign) (operand left : Expr) (op : Operator)
    (more more' : List Token) :
    .additive sign :: (operand.words ++ .paren .closing :: more) ≠
      left.words ++ op.token :: more' := by
  intro h
  obtain ⟨n, -, hoperand⟩ := eq_number_of_words_eq h
  obtain ⟨-, hbehind⟩ := eq_number_of_words_eq_integer hoperand.symm
  cases op <;> simp [Operator.token] at hbehind

/-- **The words of an expression tell its tree, and where it ends** among any words behind. -/
theorem words_append_inj {e e' : Expr} {more more' : List Token}
    (h : e.words ++ more = e'.words ++ more') : e = e' ∧ more = more' := by
  induction e generalizing e' more more' with
  | number n =>
    cases e' with
    | number n' =>
      obtain ⟨rfl, hmore⟩ := literalWords_append_inj h
      exact ⟨rfl, hmore⟩
    | _ => exact (literalWords_append_ne _ _ _ h).elim
  | unary sign operand ih =>
    cases e' with
    | number n' => exact (literalWords_append_ne _ _ _ h.symm).elim
    | unary sign' operand' =>
      simp only [words, List.cons_append, List.append_assoc, List.nil_append,
        List.cons.injEq, true_and, Token.additive.injEq] at h
      obtain ⟨rfl, hoperand⟩ := h
      obtain ⟨rfl, hbehind⟩ := ih hoperand
      exact ⟨rfl, (List.cons.inj hbehind).2⟩
    | binary left' op' right' =>
      simp only [words, List.cons_append, List.append_assoc, List.nil_append,
        List.cons.injEq, true_and] at h
      exact (unary_words_ne_binary _ _ _ _ _ _ h).elim
  | binary left op right ih₁ ih₂ =>
    cases e' with
    | number n' => exact (literalWords_append_ne _ _ _ h.symm).elim
    | unary sign' operand' =>
      simp only [words, List.cons_append, List.append_assoc, List.nil_append,
        List.cons.injEq, true_and] at h
      exact (unary_words_ne_binary _ _ _ _ _ _ h.symm).elim
    | binary left' op' right' =>
      simp only [words, List.cons_append, List.append_assoc, List.nil_append,
        List.cons.injEq, true_and] at h
      obtain ⟨rfl, hrest⟩ := ih₁ h
      obtain ⟨htoken, hright⟩ := List.cons.inj hrest
      obtain rfl := Operator.token_inj htoken
      obtain ⟨rfl, hbehind⟩ := ih₂ hright
      exact ⟨rfl, (List.cons.inj hbehind).2⟩

/-! ## Texts -/

theorem text_inj {e e' : Expr} (short : e.IsShort) (short' : e'.IsShort) (h : e.text = e'.text) :
    e = e' := by
  have hrenders : Renders e.words e'.text.toList := h ▸ renders_words short
  have hwords : e.words = e'.words := Renders.unique hrenders (renders_words short')
  exact (words_append_inj (congrArg (· ++ []) hwords)).1

theorem write_text (parts : List String) (e : Expr) (rest : List (Expr × Bool)) :
    write parts ((e, false) :: rest) = write (e.text :: parts) rest := by
  rw [write_visit, text_eq_spelling]

theorem write_root (e : Expr) : write [] [(e, false)] = some [e.text] := by
  rw [write_text, write]

/-! ## Numbers -/

theorem text_number (n : Int) :
    (n.natAbs.repr.length ≤ 4300 → (number n).text = Numeral.decimal n) ∧
      (4300 < n.natAbs.repr.length → ∃ bits, 2 ^ (bits - 1) ≤ n.natAbs ∧ n.natAbs < 2 ^ bits ∧
        (number n).text = "<" ++ bits.repr ++ "-bit integer>") := by
  have htext : (number n).text = Numeral.text n := text_eq_spelling _
  rw [htext]
  refine ⟨Numeral.text_of_short, fun long => ⟨n.natAbs.log2 + 1, ?_, Nat.lt_log2_self, ?_⟩⟩
  · refine Nat.log2_self_le fun hzero => ?_
    rw [hzero] at long
    exact absurd long (by decide)
  · rw [Numeral.text, Numeral.text?_eq_none_iff.2 long]
    rfl

end Expr

open Calculator.Expr

/-- **The text of an expression is written by recursion, and tells the tree.** Whatever finished
parts lie below and whatever nodes are still to be written, the walk puts the text of a tree on the
parts and goes on, so the walk over a whole tree leaves its text alone. A literal is shown in
decimal, or by its number of bits if it has more than 4300 digits; a sign and an operator stand in
parentheses with the texts of their operands. Expressions without such long literals have the same
text only if they are the same, also where literals are negative. -/
theorem text_tells_tree :
    (∀ parts e rest, write parts ((e, false) :: rest) = write (e.text :: parts) rest) ∧
    (∀ e, write [] [(e, false)] = some [e.text]) ∧
    (∀ n : Int, (n.natAbs.repr.length ≤ 4300 → (number n).text = Numeral.decimal n) ∧
      (4300 < n.natAbs.repr.length → ∃ bits, 2 ^ (bits - 1) ≤ n.natAbs ∧ n.natAbs < 2 ^ bits ∧
        (number n).text = "<" ++ bits.repr ++ "-bit integer>")) ∧
    (∀ sign e, (unary sign e).text = "(" ++ sign.symbol.toString ++ e.text ++ ")") ∧
    (∀ left op right, (binary left op right).text =
      "(" ++ left.text ++ " " ++ op.symbol.toString ++ " " ++ right.text ++ ")") ∧
    ∀ e e' : Expr, e.IsShort → e'.IsShort → e.text = e'.text → e = e' := by
  refine ⟨write_text, write_root, text_number, fun sign e => ?_, fun left op right => ?_,
    fun e e' short short' h => text_inj short short' h⟩
  · rw [text_eq_spelling, text_eq_spelling, spelling]
  · rw [text_eq_spelling, text_eq_spelling, text_eq_spelling, spelling]

/-- The literal -5, the minus sign before 5 and before -5, and both of them as an operand on either
side all have texts of their own. -/
theorem text_tells_tree_negative :
    ([number (-5), unary .minus (number 5), unary .minus (number (-5)),
      binary (number (-5)) .power (number 2), binary (unary .minus (number 5)) .power (number 2),
      unary .minus (binary (number 5) .power (number 2)),
      binary (number 3) (.additive .minus) (number (-5)),
      binary (number 3) (.additive .minus) (unary .minus (number 5))].map text).Nodup := by
  have distinct : ∀ es : List Expr, (∀ e ∈ es, e.IsShort) → es.Nodup → (es.map text).Nodup := by
    intro es short hne
    rw [List.Nodup, List.pairwise_map]
    refine hne.imp_of_mem fun he he' hne htext => hne ?_
    exact text_tells_tree.2.2.2.2.2 _ _ (short _ he) (short _ he') htext
  exact distinct _ (by decide) (by decide)

end Calculator
