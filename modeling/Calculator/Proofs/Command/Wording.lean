/-
What the library says in words is plain: numbers as they are displayed, the
steps of an evaluation, tokens and trees as they are listed. A message about a
text may quote one character of it, and that one only if it is printable;
everything else in it is graphic (`mem_describe_iff`).
-/
import Calculator.Command.Run
import Calculator.Proofs.Text.Plain

namespace Calculator

open Text (Consists IsPlain IsGraphic consists_repr)

/-! ## Numbers -/

namespace Layout

theorem consists_zeros (n : Nat) : Consists IsPlain (zeros n) := by
  refine .ofList fun c hc => ?_
  obtain rfl := List.eq_of_mem_replicate hc
  decide

theorem consists_point {digits : List Char} (h : ∀ c ∈ digits, IsPlain c) (whole : Nat) :
    Consists IsPlain (point digits whole) :=
  ((Consists.ofList fun c hc => h c (List.mem_of_mem_take hc)).append (by decide)).append
    (.ofList fun c hc => h c (List.mem_of_mem_drop hc))

variable {layout : Layout}

theorem consists_exponentText (hmark : Consists IsPlain layout.exponentMark) (exponent : Int) :
    Consists IsPlain (layout.exponentText exponent) := by
  have hsign : Consists IsPlain (if exponent < 0 then "-" else "+") := by split <;> decide
  exact ((hmark.append hsign).append (consists_zeros _)).append (consists_repr _)

theorem consists_write (hwhole : Consists IsPlain layout.wholeMark)
    (hmark : Consists IsPlain layout.exponentMark) (d : Decimal) :
    Consists IsPlain (layout.write d) := by
  have hdigits : ∀ c ∈ Nat.toDigits 10 d.digits, IsPlain c := fun c hc =>
    Text.isPlain_of_isDigit (Numeral.isDigit_of_mem_toDigits c hc)
  unfold write
  dsimp only
  split
  · refine Consists.append ?_ (consists_exponentText hmark _)
    split
    · exact .ofList hdigits
    · exact consists_point hdigits 1
  · split
    · exact ((Consists.ofList hdigits).append (consists_zeros _)).append hwhole
    · split
      · exact consists_point hdigits _
      · exact ((by decide : Consists IsPlain "0.").append (consists_zeros _)).append
          (.ofList hdigits)

end Layout

theorem Numeral.consists_decimal (n : Int) : Consists IsPlain (decimal n) := by
  unfold decimal
  split
  · exact (by decide : Consists IsPlain "-").append (consists_repr _)
  · exact consists_repr _

theorem Numeral.consists_text (n : Int) : Consists IsPlain (text n) := by
  unfold text text?
  split
  · exact consists_decimal n
  · exact ((by decide : Consists IsPlain "<").append (consists_repr _)).append (by decide)

namespace Binary64

theorem consists_text (x : Binary64) : Consists IsPlain x.text := by
  cases x with
  | nan => decide
  | infinity negative => cases negative <;> decide
  | finite negative rank =>
    have hsign : Consists IsPlain (if negative then "-" else "") := by cases negative <;> decide
    refine hsign.append ?_
    unfold magnitudeText
    split
    · decide
    · exact layout.consists_write (by decide) (by decide) _

theorem consists_display (x : Binary64) : Consists IsPlain x.display := by
  unfold display
  split
  · exact Numeral.consists_decimal _
  · exact x.consists_text

end Binary64

/-! ## Steps, tokens and trees -/

theorem Sign.consists_symbol (sign : Sign) : Consists IsPlain sign.symbol.toString := by
  cases sign <;> decide

theorem Operator.consists_symbol (op : Operator) : Consists IsPlain op.symbol.toString := by
  cases op with
  | additive sign => exact sign.consists_symbol
  | multiplicative scaling => cases scaling <;> decide
  | power => decide

theorem Operator.consists_step (op : Operator) (x y : Binary64) :
    Consists IsPlain (op.step x y) := by
  have hblank : Consists IsPlain " " := by decide
  exact (((((x.consists_display.append hblank).append op.consists_symbol).append hblank).append
    y.consists_display).append (by decide)).append (Binary64.consists_display _)

theorem Sign.consists_steps {sign : Sign} {x : Binary64} :
    ∀ step ∈ sign.steps x, Consists IsPlain step := by
  cases sign with
  | plus => simp [Sign.steps]
  | minus =>
    simp only [Sign.steps, List.mem_singleton, forall_eq]
    exact (((by decide : Consists IsPlain "-(").append x.consists_display).append
      (by decide)).append (Binary64.consists_display _)

theorem Expr.consists_steps (e : Expr) : ∀ step ∈ e.steps, Consists IsPlain step := by
  induction e with
  | number value => simp [Expr.steps]
  | unary sign operand ih =>
    intro step hstep
    rw [Expr.steps, List.mem_append] at hstep
    exact hstep.elim (ih step) (Sign.consists_steps step)
  | binary left op right ihl ihr =>
    intro step hstep
    simp only [Expr.steps, List.mem_append, List.mem_singleton] at hstep
    obtain (hstep | hstep) | rfl := hstep
    · exact ihl step hstep
    · exact ihr step hstep
    · exact op.consists_step _ _

theorem Token.consists_text (t : Token) : Consists IsPlain t.text := by
  cases t with
  | integer value => exact Numeral.consists_text _
  | additive sign => exact sign.consists_symbol
  | multiplicative scaling => cases scaling <;> decide
  | power => decide
  | paren side => cases side <;> decide
  | endOfText => decide

theorem TokenKind.consists_name (kind : TokenKind) : Consists IsPlain kind.name := by
  cases kind <;> decide

theorem Expr.consists_text (e : Expr) : Consists IsPlain e.text := by
  rw [Expr.text_eq_spelling]
  induction e with
  | number value => exact Numeral.consists_text value
  | unary sign operand ih =>
    exact (((by decide : Consists IsPlain "(").append sign.consists_symbol).append ih).append
      (by decide)
  | binary left op right ihl ihr =>
    have hblank : Consists IsPlain " " := by decide
    exact ((((((by decide : Consists IsPlain "(").append ihl).append hblank).append
      op.consists_symbol).append hblank).append ihr).append (by decide)

/-! ## Messages -/

theorem GrammarError.consists_message (e : GrammarError) : Consists IsGraphic e.message := by
  have hexpected : Consists IsGraphic e.expected := by
    cases e with
    | mismatch expected found => exact expected.consists_name.graphic
    | noOperand found => exact (by decide : Consists IsGraphic operandStart)
    | groupReopened => decide
    | tooDeep found => exact (by decide : Consists IsGraphic "nesting within depth limit")
  have hfound : Consists IsGraphic e.found := by
    cases e with
    | groupReopened => decide
    | mismatch expected found | noOperand found | tooDeep found => exact found.consists_name.graphic
  exact (((by decide : Consists IsGraphic "expected kind ").append hexpected).append
    (by decide)).append hfound

theorem Text.isGraphic_of_mem_toDigits (n : Nat) : ∀ c ∈ Nat.toDigits 16 n, IsGraphic c := by
  have hdigit : ∀ d < 16, IsGraphic (Nat.digitChar d) := by decide
  induction n using Nat.strongRecOn with
  | ind n ih =>
    by_cases hn : n < 16
    · rw [Nat.toDigits_of_lt_base hn]
      simpa using hdigit n hn
    · rw [Nat.toDigits_of_base_le (by decide) (by omega)]
      intro c hc
      obtain hc | hc := List.mem_append.1 hc
      · exact ih (n / 16) (by omega) c hc
      · rw [List.mem_singleton.1 hc]
        exact hdigit _ (Nat.mod_lt _ (by decide))

theorem Text.consists_hex (places n : Nat) : Consists IsGraphic (Text.hex places n) := by
  refine .ofList fun c hc => ?_
  obtain hc | hc := List.mem_append.1 hc
  · rw [List.eq_of_mem_replicate hc]
    decide
  · exact Text.isGraphic_of_mem_toDigits n c hc

/-- What may stand in a text that quotes a character. -/
def Text.InQuote (quoted c : Char) : Prop :=
  IsGraphic c ∨ c = quoted ∧ Text.isPrintable quoted = true

theorem Text.Consists.inQuote {s : String} (h : Consists IsGraphic s) (quoted : Char) :
    Consists (Text.InQuote quoted) s :=
  h.mono fun _ => .inl

/-- A character is quoted as it is only if it is printable. -/
theorem Text.consists_escape (c : Char) : Consists (Text.InQuote c) (Text.escape c) := by
  unfold Text.escape
  split
  · exact Consists.inQuote (by decide) c
  · split
    · exact Consists.inQuote (by decide) c
    · split
      · exact Consists.inQuote (by decide) c
      · split
        · exact Consists.inQuote (by decide) c
        · split
          · rename_i hprintable
            exact .singleton (.inr ⟨rfl, hprintable⟩)
          · -- the code of the character, behind a backslash and a letter
            split
            · exact ((by decide : Consists IsGraphic "\\x").append (consists_hex _ _)).inQuote c
            · split
              · exact ((by decide : Consists IsGraphic "\\u").append (consists_hex _ _)).inQuote c
              · exact ((by decide : Consists IsGraphic "\\U").append (consists_hex _ _)).inQuote c

theorem Text.mem_escape {c : Char} (h : Text.isPrintable c = true) : c ∈ (Text.escape c).toList := by
  have hcontrol : ∀ d ∈ ['\t', '\n', '\r'], c ≠ d := by
    rintro d hd rfl
    revert h
    simp only [List.mem_cons, List.not_mem_nil, or_false] at hd
    rcases hd with rfl | rfl | rfl <;> decide +kernel
  unfold Text.escape
  split
  · rename_i hc
    rw [hc]
    decide
  · rw [if_neg (hcontrol '\t' (by simp)), if_neg (hcontrol '\n' (by simp)),
      if_neg (hcontrol '\r' (by simp))]
    simp [Char.toString]

theorem Text.consists_quote (c : Char) : Consists (Text.InQuote c) (Text.quote c) := by
  have hmark : Consists IsGraphic (if c = '\'' then "\"" else "'") := by split <;> decide
  exact ((hmark.inQuote c).append (Text.consists_escape c)).append (hmark.inQuote c)

theorem Text.mem_quote {c : Char} (h : Text.isPrintable c = true) : c ∈ (Text.quote c).toList := by
  simp [Text.quote, Text.mem_escape h]

theorem LexicalError.consists_message (e : LexicalError) :
    Consists (Text.InQuote e.char) e.message :=
  (((Consists.inQuote (by decide) _).append (Text.consists_quote e.char)).append
    (Consists.inQuote (by decide) _)).append ((consists_repr _).graphic.inQuote _)

theorem LexicalError.mem_message {e : LexicalError} (h : Text.isPrintable e.char = true) :
    e.char ∈ e.message.toList := by
  have hquote := Text.mem_quote h
  unfold LexicalError.message
  simp only [Text.mem_toList_append]
  exact .inl (.inl (.inr hquote))

namespace Command

/-- The error quotes that character, and shows it as it is. -/
def Quotes (e : ExpressionError) (c : Char) : Prop :=
  ∃ error, e = .lexical error ∧ error.char = c ∧ Text.isPrintable c = true

/-- **A message is graphic, but for a character that it quotes.** -/
theorem mem_describe_iff {e : ExpressionError} {c : Char} (hc : ¬IsGraphic c) :
    c ∈ (describe e).toList ↔ Quotes e c := by
  cases e with
  | lexical error =>
    constructor
    · intro h
      have hwords : Consists (Text.InQuote error.char) (describe (.lexical error)) :=
        (Consists.inQuote (by decide) _).append error.consists_message
      obtain hgraphic | ⟨rfl, hprintable⟩ := hwords c h
      · exact absurd hgraphic hc
      · exact ⟨error, rfl, rfl, hprintable⟩
    · rintro ⟨quoted, heq, rfl, hprintable⟩
      rw [heq]
      exact Text.mem_toList_append.2 (.inr (quoted.mem_message hprintable))
  | grammatical error =>
    have hwords : Consists IsGraphic (describe (.grammatical error)) :=
      (by decide : Consists IsGraphic "Parse error: ").append error.consists_message
    exact ⟨fun h => absurd (hwords c h) hc, nofun⟩

theorem lineFeed_notMem_describe (e : ExpressionError) : '\n' ∉ (describe e).toList := by
  rw [mem_describe_iff (by decide)]
  have hcontrol : Text.isPrintable '\n' = false := by decide +kernel
  simp [Quotes, hcontrol]

end Command

end Calculator
