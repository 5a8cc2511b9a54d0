/-
The loop answers each line of its input once, in order, and as it would if there
were no other line (`loop_answers_lines`). So what it writes for two inputs, one
behind the other, is what it writes for the first, up to the prompt at its end,
and then what it writes for the second; a line that is wrong ends nothing.

The loop goes turn by turn through the lines as they are read, and a turn adds to
what was written without a look at it (`turned_some`), so the loop is a map over
its lines (`converse_eq`). All else follows from one equation, `run_loop`: a run
of the loop is a reply to each of the lines of the input (`Text.Lines`), and the
last prompt.
-/
import Calculator.Proofs.Command.Run
import Calculator.Proofs.Text.Lines
import Mathlib

namespace Calculator.Command

/-! ## Replies -/

/-- What is written behind the prompt in front of a line: nothing if the line is blank. -/
def reply (settings : Settings) (line : List Char) : String :=
  if Text.isBlankLine line then ""
  else answerOf settings (interpret settings.strict line) ++ "\n"

/-- What is written to the error output for a line. -/
def logged (settings : Settings) (level : LogLevel) (line : List Char) : String :=
  if Text.isBlankLine line then ""
  else withLineEnds (level.lines (trace settings.strict line).log)

theorem reply_of_blank {line : List Char} (h : Text.isBlankLine line = true) (settings : Settings) :
    reply settings line = "" := if_pos h

theorem reply_of_not_blank {line : List Char} (h : Text.isBlankLine line = false)
    (settings : Settings) :
    reply settings line = answerOf settings (interpret settings.strict line) ++ "\n" :=
  if_neg (ne_true_of_eq_false h)

theorem answerLine_result (settings : Settings) (line : List Char) :
    (answerLine settings line).result = reply settings line := by
  unfold answerLine reply
  split
  · rfl
  · dsimp only
    rw [trace_result]

theorem withLineEnds_answerLine (settings : Settings) (level : LogLevel) (line : List Char) :
    withLineEnds (level.lines (answerLine settings line).log) = logged settings level line := by
  unfold answerLine logged
  split
  · cases level <;> rfl
  · rfl

theorem withLineEnds_append (before after : List String) :
    withLineEnds (before ++ after) = withLineEnds before ++ withLineEnds after := by
  simp [withLineEnds]

/-- A turn writes the reply to the line that is read behind the prompt. -/
theorem turned_some (settings : Settings) (level : LogLevel) (w : Written) (line : List Char) :
    w.turned settings level (some line) =
      ⟨w.output ++ (settings.prompt ++ reply settings line), w.errors ++ logged settings level line⟩ := by
  simp only [Written.turned, turn, answerLine_result, withLineEnds_answerLine, String.append_assoc]

theorem converse_eq (settings : Settings) (level : LogLevel) (w : Written)
    (lines : List (List Char)) :
    converse settings level w lines =
      ⟨w.output ++ String.join (lines.map fun line => settings.prompt ++ reply settings line) ++
          settings.prompt ++ "\n",
        w.errors ++ String.join (lines.map (logged settings level))⟩ := by
  induction lines generalizing w with
  | nil => simp [converse, Written.turned, turn]
  | cons line lines ih =>
    rw [converse, ih, turned_some]
    simp only [List.map_cons, String.join_cons, String.append_assoc]

/-- The loop writes a reply to each line, each behind a prompt, and then one prompt more. -/
theorem answerLines_eq (settings : Settings) (level : LogLevel) (lines : List (List Char)) :
    answerLines settings level lines =
      ⟨0, String.join (lines.map fun line => settings.prompt ++ reply settings line) ++
          settings.prompt ++ "\n",
        String.join (lines.map (logged settings level))⟩ := by
  rw [answerLines, converse_eq]
  simp

/-! ## Runs -/

theorem readArguments_repl : readArguments ["repl"] = some (.loop, .none) := rfl

section

variable {environment : List (String × String)} {settings : Settings} {level : LogLevel}

theorem run_loop {inv : Invocation} {o : Options} {lines : List (List Char)}
    (hread : readArguments inv.arguments = some (.loop, o))
    (hconfig : configure inv.environment = .ok (settings, level))
    (hlines : Text.Lines inv.input.toList lines) :
    run inv = emit inv.charset (answerLines settings level lines) := by
  rw [run_of_perform hread hconfig, perform, if_pos rfl, inputLines, Text.lines_eq_of_lines hlines]
  rfl

/-- The loop answers a line so, if there is no other: the answer stands in a line behind the
prompt, and the prompt follows once more. -/
def LoopAnswers (environment : List (String × String)) (prompt : String) (line : List Char)
    (answer errors : String) : Prop :=
  run ⟨["repl"], environment, String.ofList line, .unicode⟩ =
    .ok ⟨0, prompt ++ answer ++ "\n" ++ prompt ++ "\n", errors⟩

/-- A line that is not blank is answered by its value, or by what is wrong with it. -/
theorem loopAnswers (hconfig : configure environment = .ok (settings, level)) {line : List Char}
    (hunbroken : Text.Unbroken line) (hblank : Text.isBlankLine line = false) :
    LoopAnswers environment settings.prompt line
      (answerOf settings (interpret settings.strict line)) (logged settings level line) := by
  have hne : line ≠ [] := by rintro rfl; cases hblank
  have hlines : Text.Lines (String.ofList line).toList [line] := by
    rw [String.toList_ofList]
    exact .last hne hunbroken
  rw [LoopAnswers, run_loop readArguments_repl hconfig hlines, emit_unicode, answerLines_eq]
  simp [reply_of_not_blank hblank, String.append_assoc]

/-- **The loop answers each line of its input once, in order, and apart from the others.** Every
input has lines. A blank line gets no answer, and any other one what it gets if there is no
other line. What is written for two inputs, one behind the other, is what is written for the first,
but for its last line, and then what is written for the second. -/
theorem loop_answers_lines (hconfig : configure environment = .ok (settings, level)) :
    let loop (input : String) := run ⟨["repl"], environment, input, .unicode⟩
    let answer (line : List Char) := answerOf settings (interpret settings.strict line)
    (∀ input : String, ∃ lines, Text.Lines input.toList lines) ∧
    (∀ line, Text.Unbroken line → Text.isBlankLine line = false →
      LoopAnswers environment settings.prompt line (answer line) (logged settings level line)) ∧
    (∀ (input : String) lines, Text.Lines input.toList lines →
      let answers := lines.map fun line =>
        settings.prompt ++ if Text.isBlankLine line then "" else answer line ++ "\n"
      loop input = .ok ⟨0, String.join answers ++ settings.prompt ++ "\n",
        String.join (lines.map (logged settings level))⟩) ∧
    ∀ x y : String, Text.EndsLine x.toList y.toList →
      ∃ before after earlier later,
        loop x = .ok ⟨0, before ++ settings.prompt ++ "\n", earlier⟩ ∧
        loop y = .ok ⟨0, after, later⟩ ∧
        loop (x ++ y) = .ok ⟨0, before ++ after, earlier ++ later⟩ := by
  intro loop answer
  have hall : ∀ (input : String) lines, Text.Lines input.toList lines →
      loop input = .ok
        ⟨0, String.join (lines.map fun line => settings.prompt ++ reply settings line) ++
            settings.prompt ++ "\n",
          String.join (lines.map (logged settings level))⟩ := fun input lines hlines => by
    rw [← answerLines_eq, ← emit_unicode]
    exact run_loop readArguments_repl hconfig hlines
  refine ⟨fun input => ⟨_, Text.lines_lines input.toList⟩, fun line => loopAnswers hconfig, hall,
    fun x y hends => ?_⟩
  have hx := Text.lines_lines x.toList
  have hy := Text.lines_lines y.toList
  have hxy : Text.Lines (x ++ y).toList
      (Text.lines (Text.unifyLineEnds x.toList) ++ Text.lines (Text.unifyLineEnds y.toList)) := by
    rw [String.toList_append]
    exact hx.append hy hends
  refine ⟨_, _, _, _, hall x _ hx, hall y _ hy, (hall _ _ hxy).trans ?_⟩
  simp [String.append_assoc]

end

/-- A line that is wrong and one that is blank stand before a line that is not ended. -/
theorem loop_answers_lines_mixed :
    configure [] = .ok (usual, .warning) ∧
    run ⟨["repl"], [], "$\n \r\n-10/0", .unicode⟩ =
      .ok ⟨0, "expr> Lex error: unexpected character '$' at position 0\nexpr> expr> -inf\nexpr> \n",
        ""⟩ := by
  obtain ⟨-, -, hall, -⟩ := loop_answers_lines configure_nil
  have hlines : Text.Lines "$\n \r\n-10/0".toList ["$".toList, " ".toList, "-10/0".toList] :=
    Text.lines_unifyLineEnds_eq_iff.1 (by decide +kernel)
  have hwrong : interpret false "$".toList = .error (.lexical ⟨'$', 0⟩) := by cbv
  let e : Expr := .binary (.unary .minus (.number 10)) (.multiplicative .divide) (.number 0)
  have hparse : parse false "-10/0".toList = .ok e := by cbv
  have hvalue : interpret false "-10/0".toList = .ok e.evaluate :=
    interpret_of_parse hparse
  have hshown : e.evaluate.value.display = "-inf" := by
    rw [Expr.evaluate_eq]
    decide +kernel
  refine ⟨configure_nil, (hall _ _ hlines).trans ?_⟩
  simp only [List.map, usual, hwrong, hvalue, answerOf, hshown]
  exact congrArg Except.ok (by decide +kernel)

end Calculator.Command
