/-
The steps of an evaluation are calculations of their own: what stands left of
` = ` is interpreted as what was calculated, as long as the operands are
integers (`steps_replay`).

A step shows the operands only (`Reduction`). An integer is shown by all of its
digits, and read back as itself (`derives_literal`, `renders_operation`); then
it is rounded to the number it was. Its minus sign binds tighter than the
operator of the step, so no parentheses are missing. Zero with a minus sign is
the one that does not come back.
-/
import Calculator.Proofs.Expr.Composition
import Calculator.Proofs.Expr.Rereading

namespace Calculator

open Calculator.Parser

/-! ## Reductions -/

/-- What leaves a step: a minus sign or an operation, with the values it finds. -/
inductive Reduction where
  | negation (x : Binary64)
  | operation (x : Binary64) (op : Operator) (y : Binary64)
  deriving DecidableEq, Repr

namespace Reduction

/-- The values that the reduction finds. -/
def operands : Reduction → List Binary64
  | negation x => [x]
  | operation x _ y => [x, y]

/-- The value that the reduction leaves. -/
def result : Reduction → Binary64
  | negation x => x.neg
  | operation x op y => op.apply x y

/-- The left side of the step. -/
def left : Reduction → String
  | negation x => "-(" ++ x.display ++ ")"
  | operation x op y => x.display ++ " " ++ op.symbol.toString ++ " " ++ y.display

/-- The right side of the step. -/
def right (r : Reduction) : String := r.result.display

/-- The step. -/
def text (r : Reduction) : String := r.left ++ " = " ++ r.right

/-- The operands are integers, and none is zero with a minus sign. -/
def IsWhole (r : Reduction) : Prop := ∀ x ∈ r.operands, x.toInt?.isSome ∧ x ≠ .zero true

theorem text_negation (x : Binary64) : (negation x).text = negationStep x := by
  simp [text, left, right, result, negationStep, String.append_assoc]

theorem text_operation (x : Binary64) (op : Operator) (y : Binary64) :
    (operation x op y).text = op.step x y := rfl

instance : DecidablePred IsWhole := fun r => inferInstanceAs (Decidable (∀ x ∈ r.operands, _))

end Reduction

namespace Expr

/-- The reductions of an evaluation, in order. -/
def reductions : Expr → List Reduction
  | number _ => []
  | unary .plus operand => operand.reductions
  | unary .minus operand => operand.reductions ++ [.negation operand.value]
  | binary left op right =>
    left.reductions ++ right.reductions ++ [.operation left.value op right.value]

theorem steps_eq_reductions (e : Expr) : e.steps = e.reductions.map Reduction.text := by
  induction e with
  | number n => rfl
  | unary sign operand ih =>
    cases sign with
    | plus => rw [steps, Sign.steps, List.append_nil, reductions, ih]
    | minus =>
      rw [steps, Sign.steps, reductions, List.map_append, ih, List.map_singleton,
        Reduction.text_negation]
  | binary left op right ih₁ ih₂ =>
    rw [steps, reductions, List.map_append, List.map_append, ih₁, ih₂, List.map_singleton,
      Reduction.text_operation]

/-- The last reduction leaves the value; signs without a step around it do not change it. -/
theorem result_of_getLast? {e : Expr} {r : Reduction} (h : e.reductions.getLast? = some r) :
    r.result = e.value := by
  induction e with
  | number n => cases h
  | unary sign operand ih =>
    cases sign with
    | plus => exact ih h
    | minus =>
      rw [reductions, List.getLast?_concat] at h
      rw [← Option.some.inj h]
      rfl
  | binary left op right =>
    rw [reductions, List.getLast?_concat] at h
    rw [← Option.some.inj h]
    rfl

end Expr

/-! ## Integers in a step -/

theorem derives_literal (n : Int) :
    Derives ClosesStrictly .operand (Expr.literalWords n) (Expr.literalAsRead n) := by
  unfold Expr.literalWords Expr.literalAsRead
  split
  · exact .sign .minus (.number n.natAbs)
  · exact .number n.natAbs

/-- An integer among the numbers is displayed as itself, in 310 characters at most, and what it is
read as has the value that it is. -/
theorem exists_int_of_isWhole {x : Binary64} (h : x.toInt?.isSome ∧ x ≠ .zero true) :
    ∃ n, x.display = Numeral.decimal n ∧ (Numeral.decimal n).toList.length ≤ 310 ∧
      (Expr.literalAsRead n).value = x := by
  obtain ⟨n, hn⟩ := Option.isSome_iff_exists.1 h.1
  have hround : Binary64.ofInt n = x := Binary64.ofInt_of_toInt? hn h.2
  have hdigits : (Nat.toDigits 10 n.natAbs).length ≤ 309 := by
    rw [← Nat.toList_repr]
    exact Binary64.length_repr_le_of_toInt? hn
  refine ⟨n, ?_, ?_, ?_⟩
  · rw [Binary64.display, hn]
  · rw [Numeral.toList_decimal_int]
    split
    · exact Nat.succ_le_succ hdigits
    · exact Nat.le_succ_of_le hdigits
  · rw [← hround]
    refine Expr.value_literalAsRead fun _ => ?_
    rw [hround]
    exact Binary64.isFinite_of_toInt? hn

theorem rendersWords_literal (n : Int) :
    RendersWords (Expr.literalWords n) (Numeral.decimal n).toList := by
  have hwords := Expr.rendersWords_decimal n .nil (absurd · not_startsWithInteger_nil) .nil
  rwa [List.append_nil, List.append_nil, List.append_nil] at hwords

theorem renders_operation (m : Int) (op : Operator) (n : Int) :
    Renders (Expr.literalWords m ++ op.token :: Expr.literalWords n)
      ((Numeral.decimal m).toList ++ ' ' :: op.symbol :: ' ' :: (Numeral.decimal n).toList) := by
  have hop : RendersWords _ (op.symbol :: ([' '] ++ _)) :=
    .cons_symbol op.lexeme op.kind_token_ne .space (rendersWords_literal n)
  exact ⟨[], _, rfl, .nil,
    Expr.rendersWords_decimal m .space (fun _ => List.cons_ne_nil _ _) hop⟩

theorem renders_negation (n : Int) :
    Renders (.additive .minus :: groupedTokens (Expr.literalWords n))
      ('-' :: grouped (Numeral.decimal n).toList) := by
  have hliteral : Renders (Expr.literalWords n) (Numeral.decimal n).toList :=
    ⟨[], _, rfl, .nil, rendersWords_literal n⟩
  exact hliteral.grouped.cons_symbol (.additive .minus) (by decide)

/-! ## The left side of a step -/

/-- A text that is no longer than an operation on two integers nests within the limit, and so is
interpreted as the tree that it is written out of. -/
theorem exists_interpret {text : List Char} {tokens : List Token} {e : Expr} {l : Level}
    {strict : Bool} (hlen : text.length ≤ 623) (hrenders : Renders tokens text)
    (hderives : Derives ClosesStrictly l tokens e) :
    ∃ v, interpret strict text = .ok v ∧ v.value = e.value := by
  have shallow : ParsesShallowly true text := parsesShallowly_of_length_le (by
    simp only [groupDepth, depthLimit]
    omega)
  exact ⟨_, interpret_of_renders shallow hrenders (hderives.widen (Level.rank_le_sum _)) strict, rfl⟩

theorem interpret_left {r : Reduction} (whole : r.IsWhole) :
    ∃ v, interpret true r.left.toList = .ok v ∧ v.value = r.result := by
  cases r with
  | negation x =>
    obtain ⟨n, hshown, hlen, hvalue⟩ := exists_int_of_isWhole (whole x (.head _))
    have htext : (Reduction.negation x).left.toList =
        '-' :: grouped (Numeral.decimal n).toList := by
      simp [Reduction.left, grouped, hshown]
    have hliteral : DerivesStrictly (Expr.literalWords n) (Expr.literalAsRead n) :=
      (derives_literal n).of_operand _
    have hderives : Derives ClosesStrictly .operand
        (.additive .minus :: groupedTokens (Expr.literalWords n))
        (.unary .minus (Expr.literalAsRead n)) := .sign .minus (hliteral.grouped _)
    obtain ⟨v, hv, heq⟩ := exists_interpret (by
      simp only [grouped, List.length_cons, List.length_append, List.length_nil]
      omega) (renders_negation n) hderives
    refine ⟨v, htext ▸ hv, ?_⟩
    rw [heq, Expr.value, hvalue]
    rfl
  | operation x op y =>
    obtain ⟨m, hshown₁, hlen₁, hvalue₁⟩ := exists_int_of_isWhole (whole x (.head _))
    obtain ⟨n, hshown₂, hlen₂, hvalue₂⟩ := exists_int_of_isWhole (whole y (.tail _ (.head _)))
    have htext : (Reduction.operation x op y).left.toList =
        (Numeral.decimal m).toList ++ ' ' :: op.symbol :: ' ' :: (Numeral.decimal n).toList := by
      simp [Reduction.left, hshown₁, hshown₂]
    have hderives : Derives ClosesStrictly op.level
        (Expr.literalWords m ++ op.token :: Expr.literalWords n)
        (.binary (Expr.literalAsRead m) op (Expr.literalAsRead n)) :=
      .join rfl ((derives_literal m).of_operand _) ((derives_literal n).of_operand _)
    obtain ⟨v, hv, heq⟩ := exists_interpret (by
      simp only [List.length_cons, List.length_append]
      omega) (renders_operation m op n) hderives
    refine ⟨v, htext ▸ hv, ?_⟩
    rw [heq, Expr.value, hvalue₁, hvalue₂]
    rfl

/-- **The steps can be calculated again.** What stands left of ` = ` in a step whose operands are
integers, none of them zero with a minus sign, is interpreted strictly, with the value that the
step left, which is displayed as what stands right of it. The last step, if there is any, ends
with the display of the value of the whole. -/
theorem steps_replay (e : Expr) :
    e.evaluate.steps = e.reductions.map Reduction.text ∧
    (∀ r ∈ e.reductions, r.IsWhole →
      ∃ v, interpret true r.left.toList = .ok v ∧ v.value = r.result ∧
        v.value.display = r.right) ∧
    ∀ step, e.evaluate.steps.getLast? = some step →
      ∃ before, step = before ++ " = " ++ e.evaluate.value.display := by
  have hsteps : e.evaluate.steps = e.reductions.map Reduction.text := by
    rw [Expr.evaluate_eq]
    exact e.steps_eq_reductions
  refine ⟨hsteps, fun r _ whole => ?_, fun step hlast => ?_⟩
  · obtain ⟨v, hv, heq⟩ := interpret_left whole
    exact ⟨v, hv, heq, congrArg Binary64.display heq⟩
  · rw [hsteps, List.getLast?_map, Option.map_eq_some_iff] at hlast
    obtain ⟨r, hr, rfl⟩ := hlast
    refine ⟨r.left, ?_⟩
    rw [Expr.evaluate_eq, ← Expr.result_of_getLast? hr]
    rfl

/-- In `-(3 - -2)` of the literals 3 and -2, both steps are calculated again. -/
theorem steps_replay_difference : ∃ e : Expr, ∃ v w : Evaluation,
    e.evaluate.steps = ["3 - -2 = 5", "-(5) = -5"] ∧
      interpret true "3 - -2".toList = .ok v ∧ v.value.display = "5" ∧
      interpret true "-(5)".toList = .ok w ∧ w.value.display = "-5" := by
  let difference : Expr := .binary (.number 3) (.additive .minus) (.number (-2))
  obtain ⟨hsteps, hreplay, -⟩ := steps_replay (.unary .minus difference)
  obtain ⟨v, hv, -, hshown⟩ := hreplay
    (.operation (Binary64.ofInt 3) (.additive .minus) (Binary64.ofInt (-2)))
    (.head _) (by decide +kernel)
  obtain ⟨w, hw, -, hshown'⟩ := hreplay
    (.negation difference.value) (.tail _ (.head _)) (by decide +kernel)
  have hleft : Reduction.left (.operation (Binary64.ofInt 3) (.additive .minus)
      (Binary64.ofInt (-2))) = "3 - -2" := by decide +kernel
  have hleft' : Reduction.left (.negation difference.value) = "-(5)" := by decide +kernel
  rw [hleft] at hv
  rw [hleft'] at hw
  exact ⟨_, v, w, hsteps.trans (by decide +kernel), hv, hshown.trans (by decide +kernel), hw,
    hshown'.trans (by decide +kernel)⟩

end Calculator
