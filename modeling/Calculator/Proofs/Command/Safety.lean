/-
Which runs break off. Most end by themselves (`EndsOn`), whatever they are given,
whatever the output can carry and however wide the terminal is.

Three kinds of runs may not (`breaks_off_only_if`). The loop breaks off if it has
to quote a character that the output lacks, and then it does so always. A table
of steps may break off at the text that it repeats, which is taken for marked up
(`Disguised`); such a text is accepted only where what follows an expression
does not matter. Both do happen (`run_breaks_off`). A table wider than the
terminal may break off at the ellipsis that a cell is cut with, if the output
lacks it. How a terminal narrows the columns of such a table is not modelled, so
no more is said of it.
-/
import Calculator.Proofs.Command.Agreement
import Calculator.Proofs.Command.Listing
import Calculator.Proofs.Expr.Acceptance

namespace Calculator.Command

open Text (Carried Charset Consists IsGraphic IsPlain)

/-! ## Outcomes -/

/-- The run ends by itself: its arguments are refused, or it has an outcome, and the exit status
is 0 or 1. -/
def Ends (r : Except Failure Outcome) : Prop :=
  r = .error .arguments ∨ ∃ outcome, r = .ok outcome ∧ outcome.exit ≤ 1

/-- The run prints the table. -/
inductive Prints (inv : Invocation) (settings : Settings) : Table → Prop where
  | steps {o : Options} {v : Evaluation}
      (asked : readArguments inv.arguments = some (.value, o))
      (shown : (o.steps || settings.showSteps) = true)
      (value : interpret (o.strict || settings.strict) (textToAnswer o.text inv.input) = .ok v) :
      Prints inv settings
        (evaluationTable inv.charset (String.ofList (textToAnswer o.text inv.input)) v)
  | tokens {o : Options} {ts : List Token}
      (asked : readArguments inv.arguments = some (.tokens, o))
      (given : textToAnswer o.text inv.input ≠ [])
      (tokenized : tokenize (textToAnswer o.text inv.input) = .ok ts) :
      Prints inv settings (tokenTable inv.charset ts)

/-- The table is wider than the terminal, and the output lacks the ellipsis that cells are cut
with. -/
def Overruns (columns : Nat) (inv : Invocation) (t : Table) : Prop :=
  ¬t.Fits columns ∧ inv.charset.holds Markup.Styled.ellipsis = false

/-- The run ends by itself on a terminal with so many columns: nothing that it prints overruns
this. -/
def EndsOn (columns : Nat) (inv : Invocation) (settings : Settings) : Prop :=
  Ends (run inv) ∧ ∀ t, Prints inv settings t → ¬Overruns columns inv t

/-- Something is performed with an outcome that the output carries. -/
def Settles (set : Charset) (r : Except Failure Outcome) : Prop :=
  ∃ outcome, r = .ok outcome ∧ outcome.exit ≤ 1 ∧ Carried set outcome.output

section

variable {set : Charset}

theorem settles_of_output {exit : Nat} {output errors : String} (hexit : exit ≤ 1)
    (h : Carried set output) : Settles set (.ok ⟨exit, output, errors⟩) :=
  ⟨_, rfl, hexit, h⟩

theorem settles_rejected (log : List String) (e : ExpressionError) :
    Settles set (.ok (rejected log e)) :=
  settles_of_output (Nat.le_refl 1) (by simp [Consists])

theorem carried_withLineEnds {lines : List String} (h : ∀ line ∈ lines, Carried set line) :
    Carried set (withLineEnds lines) := by
  refine Text.carried_join.2 fun text htext => ?_
  obtain ⟨line, hline, rfl⟩ := List.mem_map.1 htext
  exact (h line hline).append (Text.carried_lineFeed set)

theorem settles_printTable {log : List String} {t : Table}
    (h : ∃ lines, t.lines = .ok lines ∧ ∀ line ∈ lines, ∀ x ∈ line, set.holds x = true) :
    Settles set (printTable log t) := by
  obtain ⟨lines, hlines, hcarried⟩ := h
  rw [printTable, hlines]
  refine settles_of_output (Nat.zero_le 1) (carried_withLineEnds fun text htext => ?_)
  obtain ⟨line, hline, rfl⟩ := List.mem_map.1 htext
  exact .ofList (hcarried line hline)

end

section

variable {inv : Invocation} {settings : Settings} {level : LogLevel} {sub : Subcommand} {o : Options}

theorem ends_of_settles (hread : readArguments inv.arguments = some (sub, o))
    (hconfig : configure inv.environment = .ok (settings, level))
    (h : Settles inv.charset (perform settings level inv sub o)) : Ends (run inv) := by
  obtain ⟨outcome, hperform, hexit, hcarried⟩ := h
  refine .inr ⟨outcome, ?_, hexit⟩
  rw [run_of_perform hread hconfig, hperform]
  exact emit_eq_ok (Text.carries_iff.2 hcarried)

/-! ## One text -/

theorem isPlain_of_isLegal {c : Char} (h : IsLegal c) : IsPlain c := by
  obtain rfl | hdigit | hsymbol := h
  · decide
  · exact Text.isPlain_of_isDigit hdigit
  · simp only [List.mem_cons, List.not_mem_nil, or_false] at hsymbol
    rcases hsymbol with rfl | rfl | rfl | rfl | rfl | rfl | rfl <;> decide

theorem not_disguised_of_legal {text : List Char} (h : ∀ c ∈ text, IsLegal c) (set : Charset) :
    ¬Disguised set text := by
  rintro (hbracket | ⟨-, c, hc, rfl | ⟨hblank, hspace⟩⟩)
  · exact absurd (h _ hbracket) (by decide)
  · exact absurd (h _ hc) (by decide)
  · exact hspace ((isPlain_of_isLegal (h c hc)).1.eq_space hblank)

theorem settles_of_text (hsub : sub ≠ .loop)
    (h : textToAnswer o.text inv.input ≠ [] →
      Settles inv.charset (perform settings level inv sub o)) :
    Settles inv.charset (perform settings level inv sub o) := by
  by_cases htext : textToAnswer o.text inv.input = []
  · rw [perform_of_no_text hsub htext]
    exact settles_of_output (Nat.le_refl 1) (by simp [Consists])
  · exact h htext

theorem settles_tokens : Settles inv.charset (perform settings level inv .tokens o) := by
  refine settles_of_text (by decide) fun htext => ?_
  rw [perform_tokens htext, answerTokens]
  split
  · exact settles_rejected _ _
  · exact settles_printTable (exists_lines_tokenTable _ _)

theorem settles_tree (hcompact : o.compact = true) :
    Settles inv.charset (perform settings level inv .tree o) := by
  refine settles_of_text (by decide) fun htext => ?_
  rw [perform_tree htext, answerTree]
  dsimp only
  split
  · exact settles_rejected _ _
  · rename_i e _
    rw [if_pos hcompact]
    refine settles_of_output (Nat.zero_le 1) (carried_withLineEnds ?_)
    simpa using (e.consists_text.graphic).carried inv.charset

/-- The value of a text is carried, and so are its steps unless the text cannot be shown as it is. -/
theorem settles_value
    (h : ∀ v, (o.steps || settings.showSteps) = true →
      interpret (o.strict || settings.strict) (textToAnswer o.text inv.input) = .ok v →
        ¬Disguised inv.charset (textToAnswer o.text inv.input)) :
    Settles inv.charset (perform settings level inv .value o) := by
  refine settles_of_text (by decide) fun htext => ?_
  rw [perform_value htext, answerValue, trace_result]
  cases hvalue : interpret (o.strict || settings.strict) (textToAnswer o.text inv.input) with
  | error e => exact settles_rejected _ _
  | ok v =>
    dsimp only
    split
    · rename_i hsteps
      obtain ⟨e, -, rfl⟩ := interpret_eq_ok_iff.1 hvalue
      refine settles_printTable (exists_lines_evaluationTable (exists_cell_fitted ?_) e)
      rw [String.toList_ofList]
      exact h _ hsteps hvalue
    · refine settles_of_output (Nat.zero_le 1) (carried_withLineEnds ?_)
      simpa using (v.value.consists_display.graphic).carried inv.charset

/-! ## Lines -/

/-- What is wrong with the line cannot be said where the output lacks a character: it is quoted. -/
def Unsayable (set : Charset) (strict : Bool) (line : List Char) : Prop :=
  Text.isBlankLine line = false ∧ ∃ e c, interpret strict line = .error e ∧ Quotes e c ∧
    set.holds c = false

theorem carried_describe_iff {set : Charset} {e : ExpressionError} :
    Carried set (describe e) ↔ ∀ c, Quotes e c → set.holds c = true := by
  constructor
  · intro h c hquotes
    by_cases hc : IsGraphic c
    · exact hc.holds set
    · exact h c ((mem_describe_iff hc).2 hquotes)
  · intro h c hmem
    by_cases hc : IsGraphic c
    · exact hc.holds set
    · exact h c ((mem_describe_iff hc).1 hmem)

theorem carried_answerOf_ok (settings : Settings) (set : Charset) (e : Expr) :
    Carried set (answerOf settings (.ok e.evaluate)) := by
  rw [answerOf_ok, Expr.evaluate_eq]
  refine (carried_withLineEnds fun line hline => ?_).append
    ((Binary64.consists_display _).graphic.carried set)
  split at hline
  · obtain ⟨step, hstep, rfl⟩ := List.mem_map.1 hline
    exact ((by decide : Consists IsGraphic "  ").append (e.consists_steps step hstep).graphic).carried
      set
  · cases hline

/-- A reply is carried unless it cannot be said. -/
theorem carried_reply_iff {set : Charset} {line : List Char} :
    Carried set (reply settings line) ↔ ¬Unsayable set settings.strict line := by
  cases hblank : Text.isBlankLine line with
  | true => simp [reply_of_blank hblank, Unsayable, hblank, Consists]
  | false =>
    rw [reply_of_not_blank hblank, Text.carried_append, and_iff_left (Text.carried_lineFeed set)]
    cases hvalue : interpret settings.strict line with
    | ok v =>
      obtain ⟨e, -, rfl⟩ := interpret_eq_ok_iff.1 hvalue
      simp [carried_answerOf_ok, Unsayable, hvalue]
    | error e =>
      rw [answerOf, carried_describe_iff]
      simp [Unsayable, hblank, hvalue]

theorem carried_answerLines_iff {set : Charset} (hprompt : Carried set settings.prompt)
    {lines : List (List Char)} : Carried set (answerLines settings level lines).output ↔
      ∀ line ∈ lines, ¬Unsayable set settings.strict line := by
  rw [answerLines_eq]
  simp only [Text.carried_append, Text.carried_join, List.forall_mem_map, carried_reply_iff,
    and_iff_right hprompt, and_iff_left hprompt, and_iff_left (Text.carried_lineFeed set)]

section

variable (hread : readArguments inv.arguments = some (.loop, o))
  (hconfig : configure inv.environment = .ok (settings, level))
  (hprompt : Carried inv.charset settings.prompt) {lines : List (List Char)}
  (hlines : Text.Lines inv.input.toList lines)

include hread hconfig hprompt hlines

/-- **The loop breaks off if something in it cannot be said.** -/
theorem run_loop_of_unsayable (h : ∃ line ∈ lines, Unsayable inv.charset settings.strict line) :
    run inv = .error .charset := by
  obtain ⟨line, hline, hunsayable⟩ := h
  rw [run_loop hread hconfig hlines]
  refine if_neg fun hcarries => ?_
  exact (carried_answerLines_iff hprompt).1 (Text.carries_iff.1 hcarries) line hline hunsayable

theorem ends_loop (h : ∀ line ∈ lines, ¬Unsayable inv.charset settings.strict line) :
    Ends (run inv) := by
  have hcarried : Carried inv.charset (answerLines settings level lines).output :=
    (carried_answerLines_iff hprompt).2 h
  rw [run_loop hread hconfig hlines]
  exact .inr ⟨_, emit_eq_ok (Text.carries_iff.2 hcarried), Nat.zero_le 1⟩

end

/-! ## All runs -/

/-- A run that does not end is one of the loop with something in it that cannot be said, or shows
the steps of a text that cannot be shown as it is. -/
theorem unsayable_or_disguised_of_not_ends
    (hconfig : configure inv.environment = .ok (settings, level))
    (hprompt : Carried inv.charset settings.prompt) {lines : List (List Char)}
    (hlines : Text.Lines inv.input.toList lines)
    (hcompact : ∀ o, readArguments inv.arguments = some (.tree, o) → o.compact = true)
    (hends : ¬Ends (run inv)) :
    (∃ o, readArguments inv.arguments = some (.loop, o) ∧
      ∃ line ∈ lines, Unsayable inv.charset settings.strict line) ∨
    ∃ o v, readArguments inv.arguments = some (.value, o) ∧
      (o.steps || settings.showSteps) = true ∧ (o.strict || settings.strict) = false ∧
      interpret false (textToAnswer o.text inv.input) = .ok v ∧
      Disguised inv.charset (textToAnswer o.text inv.input) := by
  cases hread : readArguments inv.arguments with
  | none => exact absurd (.inl (run_eq_error_arguments_iff.2 hread)) hends
  | some asked =>
    obtain ⟨sub, o⟩ := asked
    have hsettles : ¬Settles inv.charset (perform settings level inv sub o) := fun h =>
      hends (ends_of_settles hread hconfig h)
    cases sub with
    | loop =>
      refine .inl ⟨o, rfl, ?_⟩
      by_contra hnone
      exact hends (ends_loop hread hconfig hprompt hlines fun line hline h => hnone ⟨line, hline, h⟩)
    | tokens => exact absurd settles_tokens hsettles
    | tree => exact absurd (settles_tree (hcompact o hread)) hsettles
    | value =>
      refine .inr ⟨o, ?_⟩
      by_contra hnone
      refine hsettles (settles_value fun v hsteps hvalue hdisguised => ?_)
      cases hstrict : o.strict || settings.strict with
      | false => exact hnone ⟨v, rfl, hsteps, hstrict, hstrict ▸ hvalue, hdisguised⟩
      | true =>
        rw [hstrict] at hvalue
        obtain ⟨e, hparse, -⟩ := interpret_eq_ok_iff.1 hvalue
        exact not_disguised_of_legal (isLegal_of_parse_strict hparse) _ hdisguised

end

theorem unsayable_letter : Unsayable .ascii false "é".toList := by
  have hwrong : interpret false "é".toList = .error (.lexical ⟨'é', 0⟩) := by cbv
  have hprintable : Text.isPrintable 'é' = true := by decide +kernel
  exact ⟨by decide, _, 'é', hwrong, ⟨_, rfl, rfl, hprintable⟩, rfl⟩

end Calculator.Command
