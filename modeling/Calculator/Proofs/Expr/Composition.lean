/-
Accepted texts as parts of larger ones: in parentheses they stand for what they
are alone, between operators and behind signs (`interpret_composed`).

Each layer has a law of its own. The words of the parts are words of the whole
(`Renders.grouped`), a sentence in parentheses is an operand of any operator
(`DerivesStrictly.grouped`), and a tree is evaluated as its operands are, and
then by the one operation.
-/
import Calculator.Interpretation
import Calculator.Proofs.Expr.Spelling
import Calculator.Proofs.Expr.Strictness
import Calculator.Proofs.Expr.Viability
import Calculator.Proofs.Expr.Walk
import Calculator.Proofs.Token.Concatenation

namespace Calculator

open Calculator.Parser

/-! ## Groups -/

/-- A text in parentheses. -/
def grouped (text : List Char) : List Char := '(' :: (text ++ [')'])

/-- The words of a text in parentheses. -/
def groupedTokens (tokens : List Token) : List Token :=
  .paren .opening :: (tokens ++ [.paren .closing])

theorem Renders.grouped {tokens : List Token} {text : List Char} (h : Renders tokens text) :
    Renders (groupedTokens tokens) (grouped text) := by
  have hclosed : Renders (tokens ++ [.paren .closing]) (text ++ [')']) :=
    h.append_symbol (.paren .closing) (by decide) (renders_nil_iff.2 .nil)
  exact hclosed.cons_symbol (.paren .opening) (by decide)

/-- A sentence in parentheses is an operand, and so an expression of any level. -/
theorem DerivesStrictly.grouped {tokens : List Token} {e : Expr} (d : DerivesStrictly tokens e)
    (l : Level) : Derives ClosesStrictly l (groupedTokens tokens) e :=
  have operand : Derives ClosesStrictly .operand (groupedTokens tokens) e := .group d rfl
  operand.of_operand l

/-! ## Whole texts -/

theorem exists_renders_of_parse {limit : Option Nat} {text : List Char} {e : Expr}
    (h : parseWithin limit true text = .ok e) :
    ∃ tokens, Renders tokens text ∧ DerivesStrictly tokens e := by
  obtain ⟨p, q, hp, htree⟩ := parseWithin_eq_ok_iff.1 h
  obtain ⟨tokens, d, hreads, hd, hderives, -, hend⟩ := exists_derives_of_tree hp htree
  rw [hend rfl] at hd
  exact ⟨tokens, reads_iff_renders.1 ⟨d, hreads, hd⟩, hderives⟩

/-- A text that writes out a sentence is interpreted in both modes as the tree of the sentence. -/
theorem interpret_of_renders {limit : Option Nat} {text : List Char} {tokens : List Token} {e : Expr}
    (shallow : ParsesWithin limit true text) (hrenders : Renders tokens text)
    (hderives : DerivesStrictly tokens e) (strict : Bool) :
    interpretWithin limit strict text = .ok ⟨e.value, e.steps, e.events⟩ := by
  obtain ⟨d, hreads, hd⟩ := reads_iff_renders.2 hrenders
  have hstrict : parseWithin limit true text = .ok e :=
    parse_eq_ok_of_derives shallow hreads hd hderives
  have hparse : parseWithin limit strict text = .ok e := by
    cases strict with
    | true => exact hstrict
    | false => exact (parseWithin_tightens limit text).accepts e hstrict
  rw [interpretWithin, hparse, ← Expr.evaluate_eq]
  rfl

theorem exists_renders_of_interpret {limit : Option Nat} {text : List Char} {r : Evaluation}
    (h : interpretWithin limit true text = .ok r) :
    ∃ tokens e, Renders tokens text ∧ DerivesStrictly tokens e ∧
      r = ⟨e.value, e.steps, e.events⟩ := by
  unfold interpretWithin at h
  rcases hparse : parseWithin limit true text with err | e
  · rw [hparse] at h
    cases h
  · rw [hparse] at h
    obtain ⟨tokens, hrenders, hderives⟩ := exists_renders_of_parse hparse
    refine ⟨tokens, e, hrenders, hderives, ?_⟩
    rw [← Expr.evaluate_eq]
    exact (Except.ok.inj h).symm

/-- **Interpretation is compositional.** Texts that are accepted strictly are put in parentheses and
joined by an operator, or given a sign: in both modes the whole, if it does not nest too deep, has
the value of the one operation on the values of the parts, and its steps are those of the parts in
order and then the one step. A plus sign changes neither value nor steps, and in parentheses alone a
text is evaluated as it is. This holds under any limit on nesting, and without one. -/
theorem interpret_composed {limit : Option Nat} {s₁ s₂ : List Char} {x y : Binary64}
    {before after : List String} {events₁ events₂ : List Event}
    (h₁ : interpretWithin limit true s₁ = .ok ⟨x, before, events₁⟩)
    (h₂ : interpretWithin limit true s₂ = .ok ⟨y, after, events₂⟩) (strict : Bool) :
    (∀ (op : Operator) symbol f, op.Denotes symbol f →
      ParsesWithin limit true (grouped s₁ ++ symbol :: grouped s₂) →
        interpretWithin limit strict (grouped s₁ ++ symbol :: grouped s₂) = .ok
          ⟨f x y,
            before ++ after ++ [x.display ++ " " ++ symbol.toString ++ " " ++ y.display ++ " = " ++
              (f x y).display],
            .reached .binary :: (events₁ ++ events₂ ++ [.valued .binary (f x y)])⟩) ∧
    (ParsesWithin limit true ('+' :: grouped s₁) →
      interpretWithin limit strict ('+' :: grouped s₁) = .ok
        ⟨x, before, .reached .unary :: (events₁ ++ [.valued .unary x])⟩) ∧
    (ParsesWithin limit true ('-' :: grouped s₁) →
      interpretWithin limit strict ('-' :: grouped s₁) = .ok
        ⟨x.neg, before ++ ["-(" ++ x.display ++ ") = " ++ x.neg.display],
          .reached .unary :: (events₁ ++ [.valued .unary x.neg])⟩) ∧
    (ParsesWithin limit true (grouped s₁) →
      interpretWithin limit strict (grouped s₁) = .ok ⟨x, before, events₁⟩) := by
  obtain ⟨ts₁, e₁, hrenders₁, hderives₁, heq₁⟩ := exists_renders_of_interpret h₁
  obtain ⟨ts₂, e₂, hrenders₂, hderives₂, heq₂⟩ := exists_renders_of_interpret h₂
  cases heq₁
  cases heq₂
  have hsigned : ∀ sign : Sign, ParsesWithin limit true (sign.symbol :: grouped s₁) →
      interpretWithin limit strict (sign.symbol :: grouped s₁) = .ok
        ⟨(Expr.unary sign e₁).value, (Expr.unary sign e₁).steps, (Expr.unary sign e₁).events⟩ := by
    intro sign shallow
    have hderives : Derives ClosesStrictly .operand (.additive sign :: groupedTokens ts₁)
        (.unary sign e₁) := .sign sign (hderives₁.grouped _)
    have hkind := (Operator.additive sign).kind_token_ne
    exact interpret_of_renders shallow (hrenders₁.grouped.cons_symbol (.additive sign) hkind)
      (hderives.of_operand _) strict
  refine ⟨fun op symbol f denotes shallow => ?_, fun shallow => ?_, fun shallow => ?_,
    fun shallow => ?_⟩
  · obtain ⟨rfl, rfl⟩ := Operator.denotes_iff.1 denotes
    have hjoined : Derives ClosesStrictly op.level
        (groupedTokens ts₁ ++ op.token :: groupedTokens ts₂) (.binary e₁ op e₂) :=
      .join rfl (hderives₁.grouped _) (hderives₂.grouped _)
    exact interpret_of_renders shallow
      (hrenders₁.grouped.append_symbol op.lexeme op.kind_token_ne hrenders₂.grouped)
      (hjoined.widen (Level.rank_le_sum _)) strict
  · have hplus := hsigned .plus shallow
    rwa [Expr.steps, Sign.steps, List.append_nil] at hplus
  · exact hsigned .minus shallow
  · exact interpret_of_renders shallow hrenders₁.grouped (hderives₁.grouped _) strict

/-- The text is interpreted, and this is displayed of its value, and these are its steps. -/
def Shows (strict : Bool) (text : List Char) (display : String) (steps : List String) : Prop :=
  ∃ r, interpret strict text = .ok r ∧ r.value.display = display ∧ r.steps = steps

/-- `-3` and `2` make `(-3)-(2)`, `+(-3)`, `-(-3)` and `(-3)`. -/
theorem interpret_composed_difference :
    Shows true ['-', '3'] "-3" ["-(3) = -3"] ∧ Shows true ['2'] "2" [] ∧
    Shows false ['(', '-', '3', ')', '-', '(', '2', ')'] "-5" ["-(3) = -3", "-3 - 2 = -5"] ∧
    Shows false ['+', '(', '-', '3', ')'] "-3" ["-(3) = -3"] ∧
    Shows false ['-', '(', '-', '3', ')'] "3" ["-(3) = -3", "-(-3) = 3"] ∧
    Shows false ['(', '-', '3', ')'] "-3" ["-(3) = -3"] := by
  have hthree : Renders [.additive .minus, .integer 3] ['-', '3'] :=
    (lexeme_toDigits 3).renders.cons_symbol (.additive .minus) (by decide)
  have htwo : Renders [.integer 2] ['2'] := (lexeme_toDigits 2).renders
  have dthree : DerivesStrictly [.additive .minus, .integer 3] (.unary .minus (.number 3)) :=
    .of_operand (.sign .minus (.number 3)) _
  have dtwo : DerivesStrictly [.integer 2] (.number 2) := .of_operand (.number 2) _
  have shallow : ∀ text : List Char, text.length ≤ 8 →
      ParsesWithin (some depthLimit) true text := by
    intro text hlen
    have hnest : groupDepth * text.length ≤ depthLimit := by
      simp only [groupDepth, depthLimit]
      omega
    exact parsesShallowly_of_length_le hnest
  have h₁ := interpret_of_renders (shallow _ (by decide)) hthree dthree true
  have h₂ := interpret_of_renders (shallow _ (by decide)) htwo dtwo true
  obtain ⟨hjoined, hplus, hminus, hgrouped⟩ := interpret_composed h₁ h₂ false
  have hdifference := hjoined _ '-' Binary64.sub .difference (shallow _ (by decide))
  have hplus := hplus (shallow _ (by decide))
  have hminus := hminus (shallow _ (by decide))
  have hgrouped := hgrouped (shallow _ (by decide))
  exact ⟨⟨_, h₁, by decide +kernel, by decide +kernel⟩,
    ⟨_, h₂, by decide +kernel, by decide +kernel⟩,
    ⟨_, hdifference, by decide +kernel, by decide +kernel⟩,
    ⟨_, hplus, by decide +kernel, by decide +kernel⟩,
    ⟨_, hminus, by decide +kernel, by decide +kernel⟩,
    ⟨_, hgrouped, by decide +kernel, by decide +kernel⟩⟩

end Calculator
