/-
What is displayed can be typed back in, if it is an integer, and is refused if it
is not (`interpret_display`).

An integer is displayed by all of its digits, which are read back exactly and
rounded to the number they came from. In the display of any other number an
illegal character stands where the digits break off, or at once behind the sign.
The parser has come to a number or a sign in front of it by then, so it is what
both modes report (`parse_of_openers_unread`).
-/
import Calculator.Proofs.Binary64.Display
import Calculator.Proofs.Expr.DeepBeginning
import Calculator.Proofs.Expr.Reductions

namespace Calculator

open Cursor Calculator.Parser

/-! ## Illegal characters at the beginning -/

namespace Parser

/-- An operand that fails behind parentheses and signs that open it makes them fail. -/
theorem Course.of_openers {limit : Nat} {ts : List Token} {r : Parser} {e : ExpressionError} :
    ∀ {depth : Nat} {p q : Parser}, Eats p ts q → (∀ t ∈ ts, 0 < deepens t) →
      depth + deepensBy ts ≤ limit →
      Course (some limit) (depth + deepensBy ts) .operand none q (.error e) r →
        Course (some limit) depth .operand none p (.error e) r := by
  induction ts with
  | nil =>
    intro depth p q heats _ _ h
    cases heats
    exact h
  | cons t ts ih =>
    intro depth p q heats opens shallow h
    rw [List.forall_mem_cons] at opens
    rw [deepensBy_cons, ← Nat.add_assoc] at shallow h
    obtain ⟨stands, -, s, hfetch, heats⟩ := heats.of_cons
    have hwithin : exceeds depth (some limit) = false :=
      exceeds_some_eq_false_iff.2 (by omega)
    exact .of_opener hwithin stands opens.1 hfetch (ih heats opens.2 shallow h)

end Parser

/-- An illegal character behind what opens an operand, and at most one token more that begins one,
is what the parser reports in both modes. -/
theorem parse_of_openers_unread {text : List Char} {ts : List Token} {d : Cursor}
    {e : LexicalError} (hreads : Reads (start text) ts d) (hd : d.next.1 = .error e)
    (opens : ∀ t ∈ ts.dropLast, 0 < deepens t) (begins : ∀ t ∈ ts.getLast?, BeginsOperand t)
    (shallow : deepensBy ts.dropLast ≤ depthLimit) (strict : Bool) :
    parse strict text = .error (.lexical e) := by
  obtain rfl | ⟨us, t, rfl⟩ := ts.eq_nil_or_concat
  · cases hreads
    unfold parse parseWithin ofText
    rw [show (start text).next = (.error e, (start text).next.2) from Prod.ext hd rfl]
  · rw [List.concat_eq_append] at *
    rw [List.dropLast_concat] at opens shallow
    obtain ⟨p, q, r, hp, heats, rfl, hfetch⟩ := exists_eats_error strict hreads hd
    have hbegins : BeginsOperand q.lookahead := begins _ (by simp)
    have hwithin : exceeds (0 + deepensBy us) (some depthLimit) = false :=
      exceeds_some_eq_false_iff.2 (by omega)
    have hcourse : Course (some depthLimit) 0 .operand none p (.error (.lexical e)) r :=
      .of_openers heats opens (by omega) (.unreadOperand hwithin hbegins hfetch)
    exact parse_eq_of_tree hp (treeWithin_eq_error (hcourse.of_operand .sum))

theorem exists_reads_run {run : List Char} {c : Char} (hrun : ∀ d ∈ run, d.isDigit = true)
    (bad : ¬IsLegal c) (rest : List Char) (p : Nat) :
    ∃ ts d e, Reads ⟨p, run ++ c :: rest⟩ ts d ∧ d.next.1 = .error e ∧
      (ts = [] ∨ ∃ n, ts = [.integer n]) := by
  have hmeets : ∀ p, next ⟨p, c :: rest⟩ = (.error ⟨c, p⟩, ⟨p, c :: rest⟩) := fun p =>
    (Step.illegal (p := p) .nil bad).next_eq
  by_cases hne : run = []
  · subst hne
    exact ⟨[], _, _, .nil, congrArg Prod.fst (hmeets p), .inl rfl⟩
  · have hstop : Stops Char.isDigit (c :: rest) :=
      stops_cons (Bool.not_eq_true _ ▸ fun hdigit => bad (.inr (.inl hdigit))) rest
    have hnumber : next ⟨p, run ++ c :: rest⟩ = _ := next_of_run .nil hne hrun hstop
    exact ⟨_, _, _, .cons hnumber nofun .nil, congrArg Prod.fst (hmeets _), .inr ⟨_, rfl⟩⟩

/-- The minus sign of a number that has one. -/
def signText (negative : Bool) : List Char := if negative then ['-'] else []

/-- The token of that sign, if there is one. -/
def signTokens (negative : Bool) : List Token := if negative then [.additive .minus] else []

theorem interpret_of_broken_run {run rest : List Char} {c : Char}
    (hrun : ∀ d ∈ run, d.isDigit = true) (bad : ¬IsLegal c) (negative strict : Bool) :
    ∃ e, interpret strict (signText negative ++ (run ++ c :: rest)) =
      .error (.lexical e) ∧
        FirstIllegal (signText negative ++ (run ++ c :: rest)) e := by
  obtain ⟨ts, d, e, hreads, hd, hts⟩ :=
    exists_reads_run hrun bad rest (if negative then 1 else 0)
  have hsigned : Reads (start (signText negative ++ (run ++ c :: rest)))
      (signTokens negative ++ ts) d := by
    cases negative with
    | false => exact hreads
    | true => exact .cons (next_of_symbol rfl _) nofun hreads
  have hopeners : (signTokens negative ++ ts).dropLast = [] ∨
      (signTokens negative ++ ts).dropLast = [.additive .minus] := by
    obtain rfl | ⟨n, rfl⟩ := hts <;> cases negative <;> simp [signTokens]
  have opens : ∀ t ∈ (signTokens negative ++ ts).dropLast, 0 < deepens t := by
    rcases hopeners with h | h <;> rw [h] <;> decide
  have begins : ∀ t ∈ (signTokens negative ++ ts).getLast?, BeginsOperand t := by
    obtain rfl | ⟨n, rfl⟩ := hts <;> cases negative <;> simp [signTokens, BeginsOperand]
  have shallow : deepensBy (signTokens negative ++ ts).dropLast ≤ depthLimit := by
    rcases hopeners with h | h <;> rw [h] <;> decide
  have hparse := parse_of_openers_unread hsigned hd opens begins shallow strict
  refine ⟨e, ?_, firstIllegal_of_reads hsigned hd⟩
  rw [interpret_eq_map, hparse]
  rfl

/-! ## What is displayed -/

theorem interpret_display_of_isWhole {x : Binary64} (h : x.toInt?.isSome ∧ x ≠ .zero true)
    (strict : Bool) : ∃ v, interpret strict x.display.toList = .ok v ∧ v.value = x := by
  obtain ⟨n, hshown, hlen, hvalue⟩ := exists_int_of_isWhole h
  have hrenders : Renders (Expr.literalWords n) (Numeral.decimal n).toList :=
    ⟨[], _, rfl, .nil, rendersWords_literal n⟩
  rw [hshown, ← hvalue]
  exact exists_interpret (Nat.le_trans hlen (by decide)) hrenders (derives_literal n)

/-- A number that is no integer is displayed, behind its sign, as digits that break off at an
illegal character. -/
theorem exists_broken_run_of_display {x : Binary64} (h : x.toInt? = none) :
    ∃ (negative : Bool) (run : List Char) (c : Char) (rest : List Char), x.display.toList =
        signText negative ++ (run ++ c :: rest) ∧
      (∀ d ∈ run, d.isDigit = true) ∧ ¬IsLegal c := by
  have hshown : x.display = x.text := by rw [Binary64.display, h]
  rw [hshown]
  cases x with
  | nan => exact ⟨false, [], 'n', ['a', 'n'], by decide, by simp, by decide⟩
  | infinity negative =>
    exact ⟨negative, [], 'i', ['n', 'f'], by cases negative <;> decide, by simp, by decide⟩
  | finite negative rank =>
    have hbreaks := Binary64.breaksOff_magnitudeText rank
    have htext : (Binary64.text (.finite negative rank)).toList =
        signText negative ++ (Binary64.magnitudeText rank).toList := by
      rw [Binary64.text, String.toList_append]
      cases negative <;> rfl
    rw [htext]
    generalize (Binary64.magnitudeText rank).toList = magnitude at hbreaks
    cases hbreaks with
    | @mark run c digits mark rest =>
      refine ⟨negative, run, c, rest, rfl, digits, ?_⟩
      obtain rfl | rfl := mark <;> decide

/-- **What is displayed can be typed back in, or is refused.** In both modes the display of an
integer is interpreted with the integer for its value, or with zero if it is zero with a minus sign;
and the display of any other number is refused for its first illegal character. -/
theorem interpret_display (x : Binary64) (strict : Bool) :
    (∀ n, x.toInt? = some n → ∃ v, interpret strict x.display.toList = .ok v ∧
      v.value = if x = .zero true then .zero false else x) ∧
    (x.toInt? = none → ∃ e, interpret strict x.display.toList = .error (.lexical e) ∧
      FirstIllegal x.display.toList e) := by
  refine ⟨fun n hn => ?_, fun h => ?_⟩
  · by_cases hzero : x = .zero true
    · -- Zero is displayed without its sign.
      have hdisplay : x.display = Binary64.display (.zero false) := by rw [hzero]; decide +kernel
      rw [hdisplay, if_pos hzero]
      exact interpret_display_of_isWhole (by decide +kernel) strict
    · rw [if_neg hzero]
      exact interpret_display_of_isWhole ⟨Option.isSome_of_eq_some hn, hzero⟩ strict
  · obtain ⟨negative, run, c, rest, htext, hrun, bad⟩ := exists_broken_run_of_display h
    rw [htext]
    exact interpret_of_broken_run hrun bad negative strict

end Calculator
