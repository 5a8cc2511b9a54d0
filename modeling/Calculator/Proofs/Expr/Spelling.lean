/-
The fully parenthesised text of an expression, word by word. `words` are its
words, and `renders_words` says that the text renders them if the literals are
written out. A negative literal is two words, so these are the words of a minus
sign before its magnitude (`asRead`); without negative literals they are `tokens`
(`renders_text`).

The proof is by induction on the expression, with a gap and any words behind it:
what ends in a digit is kept apart from an integer that follows.
-/
import Calculator.Expr.Printer
import Calculator.Proofs.Numeral
import Calculator.Proofs.Token.Rendering

namespace Calculator

theorem Operator.lexeme (op : Operator) : Lexeme op.token [op.symbol] := by
  cases op with
  | additive sign => exact .additive sign
  | multiplicative scaling => exact .multiplicative scaling
  | power => exact .power

theorem Operator.kind_token_ne (op : Operator) : op.token.kind ≠ .integer := by
  cases op <;> nofun

namespace Expr

/-! ## Literals -/

/-- Every literal of the expression has the property. -/
def AllLiterals (P : Int → Prop) : Expr → Prop
  | number value => P value
  | unary _ operand => operand.AllLiterals P
  | binary left _ right => left.AllLiterals P ∧ right.AllLiterals P

instance decidableAllLiterals (P : Int → Prop) [DecidablePred P] : DecidablePred (AllLiterals P)
  | number value => inferInstanceAs (Decidable (P value))
  | unary _ operand => decidableAllLiterals P operand
  | binary left _ right =>
    @instDecidableAnd _ _ (decidableAllLiterals P left) (decidableAllLiterals P right)

/-- No literal is negative. -/
def IsNatural (e : Expr) : Prop := e.AllLiterals (0 ≤ ·)

/-- Every literal has few enough digits to be written out. -/
def IsShort (e : Expr) : Prop :=
  e.AllLiterals fun value => value.natAbs.repr.length ≤ Numeral.longest

instance : DecidablePred IsNatural := fun e => inferInstanceAs (Decidable (e.AllLiterals _))

instance : DecidablePred IsShort := fun e => inferInstanceAs (Decidable (e.AllLiterals _))

/-! ## Words -/

/-- The words of the text of an expression. -/
def tokens : Expr → List Token
  | number value => [.integer value.toNat]
  | unary sign operand =>
    .paren .opening :: .additive sign :: (operand.tokens ++ [.paren .closing])
  | binary left op right =>
    .paren .opening :: (left.tokens ++ op.token :: (right.tokens ++ [.paren .closing]))

/-- The words of an integer: its magnitude, behind a minus sign if it is negative. -/
def literalWords (value : Int) : List Token :=
  if value < 0 then [.additive .minus, .integer value.natAbs] else [.integer value.natAbs]

/-- The words of the text of an expression that may have negative literals. -/
def words : Expr → List Token
  | number value => literalWords value
  | unary sign operand =>
    .paren .opening :: .additive sign :: (operand.words ++ [.paren .closing])
  | binary left op right =>
    .paren .opening :: (left.words ++ op.token :: (right.words ++ [.paren .closing]))

/-- What the words of an integer are read as: there are no negative literals among them. -/
def literalAsRead (value : Int) : Expr :=
  if value < 0 then unary .minus (number value.natAbs) else number value.natAbs

/-- The expression with a minus sign before the magnitude in place of each negative literal. -/
def asRead : Expr → Expr
  | number value => literalAsRead value
  | unary sign operand => unary sign operand.asRead
  | binary left op right => binary left.asRead op right.asRead

theorem words_eq_tokens {e : Expr} (natural : e.IsNatural) : e.words = e.tokens := by
  induction e with
  | number value =>
    obtain ⟨n, rfl⟩ := Int.eq_ofNat_of_zero_le natural
    rw [words, literalWords, if_neg (Int.not_lt.2 natural)]
    rfl
  | unary sign operand ih => simp only [words, tokens, ih natural]
  | binary left op right ih₁ ih₂ => simp only [words, tokens, ih₁ natural.1, ih₂ natural.2]

theorem asRead_eq_self {e : Expr} (natural : e.IsNatural) : e.asRead = e := by
  induction e with
  | number value =>
    have hvalue : (0 : Int) ≤ value := natural
    simp only [asRead, literalAsRead, if_neg (Int.not_lt.2 hvalue), Int.natAbs_of_nonneg hvalue]
  | unary sign operand ih => simp only [asRead, ih natural]
  | binary left op right ih₁ ih₂ => simp only [asRead, ih₁ natural.1, ih₂ natural.2]

theorem rendersWords_decimal (value : Int) {more : List Token} {gap rest : List Char}
    (hgap : IsGap gap) (apart : StartsWithInteger more → gap ≠ []) (hmore : RendersWords more rest) :
    RendersWords (literalWords value ++ more)
      ((Numeral.decimal value).toList ++ (gap ++ rest)) := by
  have hmagnitude : RendersWords (.integer value.natAbs :: more)
      (Nat.toDigits 10 value.natAbs ++ (gap ++ rest)) :=
    .cons (lexeme_toDigits value.natAbs) hgap (fun _ => apart) hmore
  rw [Numeral.toList_decimal_int, literalWords]
  split
  · have hsign : RendersWords _ ('-' :: _) :=
      .cons_symbol (.additive .minus) (by decide) .nil hmagnitude
    exact hsign
  · exact hmagnitude

/-- The text of an expression and what stands behind it render the words of both, unless an
integer stands there with no gap before it. -/
theorem rendersWords_spelling {e : Expr} (short : e.IsShort) :
    ∀ {more : List Token} {gap rest : List Char}, IsGap gap →
      (StartsWithInteger more → gap ≠ []) → RendersWords more rest →
        RendersWords (e.words ++ more) (e.spelling.toList ++ (gap ++ rest)) := by
  induction e with
  | number value =>
    intro more gap rest hgap apart hmore
    rw [spelling, Numeral.text_of_short short]
    exact rendersWords_decimal value hgap apart hmore
  | unary sign operand ih =>
    intro more gap rest hgap _ hmore
    have hfree : ¬StartsWithInteger (.paren .closing :: more) :=
      not_startsWithInteger_cons (by decide)
    have hclose : RendersWords _ (')' :: _) := .cons_symbol (.paren .closing) (by decide) hgap hmore
    have hoperand := ih short .nil (absurd · hfree) hclose
    have hsign : RendersWords _ (sign.symbol :: _) :=
      .cons_symbol (.additive sign) (Operator.additive sign).kind_token_ne .nil hoperand
    have hopen : RendersWords _ ('(' :: _) := .cons_symbol (.paren .opening) (by decide) .nil hsign
    simpa [words, spelling] using hopen
  | binary left op right ih₁ ih₂ =>
    intro more gap rest hgap _ hmore
    have hfree : ¬StartsWithInteger (.paren .closing :: more) :=
      not_startsWithInteger_cons (by decide)
    have hclose : RendersWords _ (')' :: _) := .cons_symbol (.paren .closing) (by decide) hgap hmore
    have hright := ih₂ short.2 .nil (absurd · hfree) hclose
    have hop : RendersWords _ (op.symbol :: _) :=
      .cons_symbol op.lexeme op.kind_token_ne .space hright
    have hleft := ih₁ short.1 .space (fun _ => List.cons_ne_nil _ _) hop
    have hopen : RendersWords _ ('(' :: _) := .cons_symbol (.paren .opening) (by decide) .nil hleft
    simpa [words, spelling] using hopen

theorem renders_words {e : Expr} (short : e.IsShort) : Renders e.words e.text.toList := by
  have hwords := rendersWords_spelling short .nil (absurd · not_startsWithInteger_nil) .nil
  rw [List.append_nil, List.append_nil, List.append_nil, ← text_eq_spelling] at hwords
  exact ⟨[], _, rfl, .nil, hwords⟩

theorem renders_text {e : Expr} (natural : e.IsNatural) (short : e.IsShort) :
    Renders e.tokens e.text.toList := words_eq_tokens natural ▸ renders_words short

end Expr

end Calculator
