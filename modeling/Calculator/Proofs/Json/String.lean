/-
Strings of JSON: reading a quoted text gives the text (`stringAfter_quoted`).

A character is written as itself, or as an escape by a letter or by its code, and
is read back from whichever it is (`stringAfter_escape`); so a text is read
back by induction on it, with the characters read before it.
-/
import Calculator.Json.Reader
import Calculator.Json.Writer

namespace Calculator.Json

/-! ## Characters escaped by their code -/

theorem hex4_control : ∀ n < 0x20,
    (Text.hex 4 n).toList.length = 4 ∧ Text.hexadecimal? (Text.hex 4 n).toList = some n := by
  decide +kernel

/-- A control character is read from its code, which something has to follow. -/
theorem unitsAt_control {c : Char} (hc : c.toNat < 0x20) {rest : List Char} (hrest : rest ≠ []) :
    ∃ hle, unitsAt ((Text.hex 4 c.toNat).toList ++ rest) = .ok (c, ⟨rest, hle⟩) := by
  obtain ⟨hlen, hvalue⟩ := hex4_control c.toNat hc
  generalize (Text.hex 4 c.toNat).toList = digits at *
  have htake : (digits ++ rest).take 4 = digits := by rw [← hlen, List.take_left]
  have hdrop : (digits ++ rest).drop 4 = rest := by rw [← hlen, List.drop_left]
  have hunit : unitAt (digits ++ rest) = .ok c.toNat := by
    simp [unitAt, hex4?, htake, hdrop, hlen, hvalue, hrest]
  have hhigh : Text.isHighSurrogate c.toNat = false := by
    simp [Text.isHighSurrogate]
    omega
  have hlow : Text.isLowSurrogate c.toNat = false := by
    simp [Text.isLowSurrogate]
    omega
  have hchar : Text.charOfUnit c.toNat = c := by simp [Text.charOfUnit, hhigh, hlow]
  refine ⟨by simp, ?_⟩
  simp [unitsAt, hunit, hhigh, hchar, hdrop]

/-! ## One character -/

section

variable {start rest : List Char}

/-- A character is written by a letter, by its code, or as itself. -/
inductive Escape (c : Char) : List Char → Prop where
  | letter {letter : Char} (named : letter ≠ 'u') (stands : escapes.lookup letter = some c) :
      Escape c ['\\', letter]
  | code (control : c.toNat < 0x20) : Escape c ('\\' :: 'u' :: (Text.hex 4 c.toNat).toList)
  | plain (quote : c ≠ '"') (backslash : c ≠ '\\') (control : ¬c.toNat < 0x20) : Escape c [c]

theorem escape_escaped (c : Char) : Escape c (escaped c) := by
  unfold escaped
  repeat' split
  case isTrue h | isFalse.isTrue h | isFalse.isFalse.isTrue h | isFalse.isFalse.isFalse.isTrue h |
      isFalse.isFalse.isFalse.isFalse.isTrue h |
      isFalse.isFalse.isFalse.isFalse.isFalse.isTrue h |
      isFalse.isFalse.isFalse.isFalse.isFalse.isFalse.isTrue h =>
    subst h
    exact .letter (by decide) (by decide)
  case isFalse.isFalse.isFalse.isFalse.isFalse.isFalse.isFalse.isTrue h => exact .code h
  next hquote hbackslash _ _ _ _ _ hcontrol => exact .plain hquote hbackslash hcontrol

/-- **A character is read back from how it is written.** -/
theorem stringAfter_escape {c : Char} {written : List Char} (escape : Escape c written)
    (hrest : rest ≠ []) (done : List Char) (h : (written ++ rest).length < start.length) :
    ∃ h', stringAfter start done (written ++ rest) h = stringAfter start (c :: done) rest h' := by
  have h' : rest.length < start.length := by
    rw [List.length_append] at h
    omega
  refine ⟨h', ?_⟩
  -- The bound `h` is about the text, so the text is not rewritten but written out.
  cases escape with
  | @letter letter named stands =>
    change stringAfter start done ('\\' :: letter :: rest) h = _
    rw [stringAfter]
    simp [named, stands]
  | code control =>
    obtain ⟨hle, hunits⟩ := unitsAt_control control hrest
    change stringAfter start done ('\\' :: 'u' :: (_ ++ rest)) h = _
    rw [stringAfter]
    simp [hunits]
  | plain quote backslash control =>
    change stringAfter start done (c :: rest) h = _
    rw [stringAfter]
    simp [quote, backslash, control]

end

/-! ## Whole strings -/

theorem stringAfter_escaped {start text : List Char} (rest : List Char) :
    ∀ (done : List Char) (h : (text.flatMap escaped ++ '"' :: rest).length < start.length),
      ∃ h', stringAfter start done (text.flatMap escaped ++ '"' :: rest) h =
        .ok ⟨String.ofList (done.reverse ++ text), rest, h'⟩ := by
  induction text with
  | nil =>
    intro done h
    refine ⟨Nat.lt_of_succ_lt h, ?_⟩
    change stringAfter start done ('"' :: rest) h = _
    rw [stringAfter]
    simp
  | cons c text ih =>
    intro done h
    rw [List.flatMap_cons, List.append_assoc] at h
    obtain ⟨h₁, heq⟩ := stringAfter_escape (escape_escaped c) (by simp) done h
    obtain ⟨h₂, hih⟩ := ih (c :: done) h₁
    refine ⟨h₂, ?_⟩
    simp only [List.flatMap_cons, List.append_assoc, heq, hih]
    simp

/-- **A quoted text is read back,** behind its first quote. -/
theorem stringAfter_quoted (text : String) (rest : List Char) :
    ∃ inside, (quoted text).toList ++ rest = '"' :: inside ∧
      ∀ h, ∃ h', stringAfter ('"' :: inside) [] inside h = .ok ⟨text, rest, h'⟩ := by
  refine ⟨text.toList.flatMap escaped ++ '"' :: rest, by simp [quoted], fun h => ?_⟩
  obtain ⟨h', heq⟩ := stringAfter_escaped rest [] h
  rw [List.reverse_nil, List.nil_append, String.ofList_toList] at heq
  exact ⟨h', heq⟩

end Calculator.Json
