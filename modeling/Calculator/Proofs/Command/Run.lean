/-
What a run comes to, one lemma for each way to go on: a run ends in a usage
error exactly if its arguments cannot be read, and otherwise its subcommand is
performed and what that writes has to fit the output. The lemmas below say what
each subcommand makes of a text, with `interpret`, `parse` and `tokenize` in
place of their traced forms; other modules use them and do not open `run`.
-/
import Calculator.Command.Run

namespace Calculator

/-! ## The log does not matter -/

theorem traceParse_result (strict : Bool) (text : List Char) :
    (traceParse strict text).result = parse strict text := by
  unfold traceParse parse parseWithin
  cases Parser.ofText strict text <;> rfl

theorem trace_result (strict : Bool) (text : List Char) :
    (trace strict text).result = interpret strict text := by
  unfold trace
  rw [interpret_eq_map, ← traceParse_result]
  cases h : (traceParse strict text).result <;> simp [h, Except.map]

theorem interpret_eq_ok_iff {strict : Bool} {text : List Char} {v : Evaluation} :
    interpret strict text = .ok v ↔ ∃ e, parse strict text = .ok e ∧ e.evaluate = v := by
  rw [interpret_eq_map]
  cases parse strict text <;> simp [Except.map]

theorem interpret_of_parse {strict : Bool} {text : List Char} {e : Expr}
    (h : parse strict text = .ok e) : interpret strict text = .ok e.evaluate :=
  interpret_eq_ok_iff.2 ⟨e, h, rfl⟩

theorem LogLevel.lines_eq_nil {level : LogLevel} (h : level.isVerbose = false)
    (log : List LogLine) : level.lines log = [] := by
  simp [LogLevel.lines, h]

namespace Command

theorem withLineEnds_nil : withLineEnds [] = "" := rfl

theorem withLineEnds_singleton (line : String) : withLineEnds [line] = line ++ "\n" := by
  simp [withLineEnds, String.join]

/-! ## Whole runs -/

variable {inv : Invocation} {settings : Settings} {level : LogLevel} {sub : Subcommand} {o : Options}

theorem emit_eq_ok {set : Text.Charset} {outcome : Outcome}
    (h : set.carries outcome.output.toList = true) : emit set outcome = .ok outcome := if_pos h

theorem emit_unicode (outcome : Outcome) : emit .unicode outcome = .ok outcome :=
  emit_eq_ok (List.all_eq_true.2 fun _ _ => rfl)

theorem run_of_perform (hread : readArguments inv.arguments = some (sub, o))
    (hconfig : configure inv.environment = .ok (settings, level)) :
    run inv = (perform settings level inv sub o).bind (emit inv.charset) := by
  simp only [run, hread, hconfig]
  cases perform settings level inv sub o <;> rfl

/-- The settings of an empty environment. -/
def usual : Settings := ⟨"Arytmos", "0.1.0", "WARNING", "expr> ", false, false⟩

theorem configure_nil : configure [] = .ok (usual, .warning) := rfl

/-- Of the arguments only what they ask for matters. -/
theorem run_congr {arguments others : List String} (h : readArguments arguments = readArguments others)
    (environment : List (String × String)) (input : String) (set : Text.Charset) :
    run ⟨arguments, environment, input, set⟩ = run ⟨others, environment, input, set⟩ := by
  simp only [run, h]
  rfl

/-! ## Answers to one text -/

theorem textToAnswer_some {text : String} (h : text ≠ "") (input : String) :
    textToAnswer (some text) input = text.toList := by
  simp [textToAnswer, Option.filter, h]

theorem perform_value (h : textToAnswer o.text inv.input ≠ []) :
    perform settings level inv .value o =
      answerValue settings level inv.charset o (textToAnswer o.text inv.input) := by
  simp [perform, h]

theorem perform_tokens (h : textToAnswer o.text inv.input ≠ []) :
    perform settings level inv .tokens o =
      answerTokens level inv.charset (textToAnswer o.text inv.input) := by
  simp [perform, h]

theorem perform_tree (h : textToAnswer o.text inv.input ≠ []) :
    perform settings level inv .tree o =
      answerTree settings level o (textToAnswer o.text inv.input) := by
  simp [perform, h]

theorem perform_of_no_text (hsub : sub ≠ .loop) (h : textToAnswer o.text inv.input = []) :
    perform settings level inv sub o = .ok ⟨1, "", withLineEnds [noText]⟩ := by
  simp [perform, hsub, h]

variable {text : List Char} {strict : Bool}

theorem run_value_of_error {e : ExpressionError}
    (hread : readArguments inv.arguments = some (.value, o))
    (hconfig : configure inv.environment = .ok (settings, level))
    (htext : textToAnswer o.text inv.input = text) (hne : text ≠ [])
    (hstrict : (o.strict || settings.strict) = strict) (h : interpret strict text = .error e) :
    run inv = .ok (rejected (level.lines (trace strict text).log) e) := by
  subst htext
  rw [run_of_perform hread hconfig, perform_value hne]
  simp only [answerValue, hstrict, trace_result, h]
  exact emit_eq_ok rfl

theorem run_value_of_ok {v : Evaluation}
    (hread : readArguments inv.arguments = some (.value, o))
    (hconfig : configure inv.environment = .ok (settings, level))
    (htext : textToAnswer o.text inv.input = text) (hne : text ≠ [])
    (hstrict : (o.strict || settings.strict) = strict)
    (hsteps : (o.steps || settings.showSteps) = false) (h : interpret strict text = .ok v) :
    run inv = emit inv.charset
      ⟨0, v.value.display ++ "\n", withLineEnds (level.lines (trace strict text).log)⟩ := by
  subst htext
  rw [run_of_perform hread hconfig, perform_value hne]
  simp only [answerValue, hstrict, trace_result, h, hsteps, withLineEnds_singleton]
  rfl

theorem run_value_of_steps {v : Evaluation}
    (hread : readArguments inv.arguments = some (.value, o))
    (hconfig : configure inv.environment = .ok (settings, level))
    (htext : textToAnswer o.text inv.input = text) (hne : text ≠ [])
    (hstrict : (o.strict || settings.strict) = strict)
    (hsteps : (o.steps || settings.showSteps) = true) (h : interpret strict text = .ok v) :
    run inv = (printTable (level.lines (trace strict text).log)
      (evaluationTable inv.charset (String.ofList text) v)).bind (emit inv.charset) := by
  subst htext
  rw [run_of_perform hread hconfig, perform_value hne]
  simp only [answerValue, hstrict, trace_result, h, hsteps, if_true]

/-! ## Breaking off -/

/-- A run that breaks off while its subcommand is performed cannot read the markup of a table. -/
theorem perform_eq_error {failure : Failure} (h : perform settings level inv sub o = .error failure) :
    ∃ fault, failure = .markup fault := by
  have htable {log : List String} {t : Table} (h : printTable log t = .error failure) :
      ∃ fault, failure = .markup fault := by
    unfold printTable at h
    split at h
    · cases h
    · exact ⟨_, (Except.error.inj h).symm⟩
  unfold perform at h
  dsimp only at h
  split at h
  · cases h
  · split at h
    · cases h
    · split at h
      · unfold answerTokens at h
        dsimp only at h
        split at h
        · cases h
        · exact htable h
      · unfold answerTree at h
        dsimp only at h
        split at h <;> cases h
      · unfold answerValue at h
        dsimp only at h
        split at h
        · cases h
        · split at h
          · exact htable h
          · cases h

/-- **A run ends in a usage error if and only if its arguments cannot be read.** -/
theorem run_eq_error_arguments_iff :
    run inv = .error .arguments ↔ readArguments inv.arguments = none := by
  cases hread : readArguments inv.arguments with
  | none => simp [run, hread]
  | some asked =>
    obtain ⟨sub, o⟩ := asked
    refine ⟨fun h => ?_, nofun⟩
    simp only [run, hread] at h
    split at h
    · rename_i failure hconfig
      obtain rfl := Except.error.inj h
      unfold configure at hconfig
      split at hconfig
      · cases hconfig
      · split at hconfig <;> cases hconfig
    · split at h
      · rename_i hperform
        obtain ⟨_, heq⟩ := perform_eq_error (hperform.trans h)
        cases heq
      · unfold emit at h
        split at h <;> cases h

end Command

end Calculator
