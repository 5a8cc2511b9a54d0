/-
A text may be evaluated by a command of its own, as a line of the loop, or by
the service. All three give the same answer (`ways_agree`): the same value, or
the same message in words, where the service parts the kind of the error from
what is said about it.

One text is left out, two dashes: attached to the name of an option they are no
text, although the loop and the service answer them (`ways_differ_dashes`).
-/
import Calculator.Proofs.Command.Arguments
import Calculator.Proofs.Command.Loop
import Calculator.Proofs.Command.Wording
import Calculator.Proofs.Expr.Nesting
import Calculator.Proofs.Service.Agreement

namespace Calculator.Command

open Service (Body Request Response errorKind)

/-! ## The command -/

/-- The environment has these settings, and lets no line of the log through. -/
def Quiet (environment : List (String × String)) (settings : Settings) : Prop :=
  ∃ level, configure environment = .ok (settings, level) ∧ level.isVerbose = false

/-- The arguments that ask for the value of a text. -/
def evaluation (strictly : Bool) (text : String) : List String :=
  "eval" :: ((if strictly then ["--strict"] else []) ++ ["--text=" ++ text])

theorem readArguments_evaluation (strictly : Bool) {text : String} (h : text ≠ "--") :
    readArguments (evaluation strictly text) = some (.value, ⟨some text, false, false, strictly⟩) := by
  have hname : ("eval", Subcommand.value) ∈ Subcommand.names := by decide
  have hsub : Subcommand.value ≠ .loop := by decide
  cases strictly with
  | false =>
    have hread := readArguments_attached hname hsub text
    rwa [if_neg h] at hread
  | true =>
    have hstrict : classify Subcommand.value.options "--strict" =
        some (.option .strict false none) := rfl
    have hset : ∀ o, readOption Subcommand.value.options o .strict false none =
        some (.complete (o.set .strict)) := fun o => by rw [readOption] <;> simp
    have htext : ∀ o, readOption Subcommand.value.options o .text false (some text.toList) =
        some (.complete (o.attachText text.toList)) := fun o => by rw [readOption]
    rw [evaluation, readArguments_cons hname]
    simp only [if_true, List.singleton_append, classifyAll, hstrict, classify_attached hsub,
      Option.map_some, Option.bind_some]
    rw [readAll_complete (hset _), readAll_complete (htext _), readAll, attachText_toList, if_neg h]
    rfl

section

variable {environment : List (String × String)} {settings : Settings} {text : String}
  {strictly strict : Bool}

theorem run_evaluation_of_ok (hquiet : Quiet environment settings) (hsteps : settings.showSteps = false)
    (hsep : text ≠ "--") (hne : text ≠ "") (hstrict : (strictly || settings.strict) = strict)
    {v : Evaluation} (h : interpret strict text.toList = .ok v) (input : String) :
    run ⟨evaluation strictly text, environment, input, .unicode⟩ =
      .ok ⟨0, v.value.display ++ "\n", ""⟩ := by
  obtain ⟨level, hconfig, hlevel⟩ := hquiet
  rw [run_value_of_ok (readArguments_evaluation strictly hsep) hconfig (textToAnswer_some hne input)
    (by simpa using hne) hstrict (by simpa using hsteps) h, emit_unicode,
    LogLevel.lines_eq_nil hlevel]
  rfl

theorem run_evaluation_of_error (hquiet : Quiet environment settings) (hsep : text ≠ "--")
    (hne : text ≠ "") (hstrict : (strictly || settings.strict) = strict) {e : ExpressionError}
    (h : interpret strict text.toList = .error e) (input : String) :
    run ⟨evaluation strictly text, environment, input, .unicode⟩ =
      .ok ⟨1, "", describe e ++ "\n"⟩ := by
  obtain ⟨level, hconfig, hlevel⟩ := hquiet
  rw [run_value_of_error (readArguments_evaluation strictly hsep) hconfig
    (textToAnswer_some hne input) (by simpa using hne) hstrict h, rejected,
    LogLevel.lines_eq_nil hlevel, List.nil_append, withLineEnds_singleton]

/-! ## The loop -/

theorem loopAnswers_quiet (hquiet : Quiet environment settings) {line : List Char}
    (hunbroken : Text.Unbroken line) (hblank : Text.isBlankLine line = false) :
    LoopAnswers environment settings.prompt line
      (answerOf settings (interpret settings.strict line)) "" := by
  obtain ⟨level, hconfig, hlevel⟩ := hquiet
  have hlogged : logged settings level line = "" := by
    simp [logged, LogLevel.lines_eq_nil hlevel, withLineEnds_nil]
  exact hlogged ▸ loopAnswers hconfig hunbroken hblank

end

theorem withLineEnds_cons (line : String) (lines : List String) :
    withLineEnds (line :: lines) = line ++ "\n" ++ withLineEnds lines := by
  rw [← List.singleton_append, withLineEnds_append, withLineEnds_singleton]

theorem intercalate_lineFeed (lines : List String) (last : String) :
    "\n".intercalate (lines ++ [last]) = withLineEnds lines ++ last := by
  induction lines with
  | nil => exact String.intercalate_singleton
  | cons line lines ih =>
    rw [List.cons_append, String.intercalate_cons_of_ne_nil (by simp), ih, withLineEnds_cons,
      String.append_assoc, String.append_assoc, String.append_assoc]

/-- The answer with a value: its steps, each in a line of its own behind two blanks, if they are
to be shown, and then the value. -/
theorem answerOf_ok (settings : Settings) (v : Evaluation) :
    answerOf settings (.ok v) =
      withLineEnds (if settings.showSteps then v.steps.map ("  " ++ ·) else []) ++
        v.value.display :=
  intercalate_lineFeed _ _

/-! ## The three ways -/

/-- **A command, the loop and the service give the same answer** to a text that is a line and not
two dashes, if they are equally strict and no steps are asked for. Either all give one and the same
value, or all refuse the text: the command and the loop by a message of one line, and the service
by its two parts, the kind of the error and what is said about it. If the loop is to show steps,
just those of the evaluation stand before the value, in their order. A text that never nests deeper
than 16000 is interpreted alike under all limits from there on, so it does not matter either that
one way may leave less of the limit to the parser than another. -/
theorem ways_agree {body : Body} (hsep : body.text ≠ "--")
    (hunbroken : Text.Unbroken body.text.toList) (hblank : Text.isBlankLine body.text.toList = false)
    {environment others : List (String × String)} {settings loopSettings serviceSettings : Settings}
    (hquiet : Quiet environment settings) (hloop : Quiet others loopSettings)
    (hsteps : settings.showSteps = false) {strictly strict : Bool}
    (hstrict : (strictly || settings.strict) = strict) (hloopStrict : loopSettings.strict = strict)
    (hserviceStrict : body.strict.getD serviceSettings.strict = strict) {r : Request}
    (hposts : r.Posts .evaluate body) (input : String) :
    let outcome := run ⟨evaluation strictly body.text, environment, input, .unicode⟩
    let LoopSays (answer : String) :=
      LoopAnswers others loopSettings.prompt body.text.toList answer ""
    ((∀ p, Parser.ofText strict body.text.toList = .ok p → p.NestsWithin 16000) →
      ∀ limit ≥ 16000, interpretWithin (some limit) strict body.text.toList =
        interpret strict body.text.toList) ∧
    ∃ response : Response, r.Gets serviceSettings response ∧
      ((∃ v, interpret strict body.text.toList = .ok v ∧
          outcome = .ok ⟨0, v.value.display ++ "\n", ""⟩ ∧
          (loopSettings.showSteps = false → LoopSays v.value.display) ∧
          (loopSettings.showSteps = true →
            LoopSays (withLineEnds (v.steps.map ("  " ++ ·)) ++ v.value.display)) ∧
          response.Gives v) ∨
        ∃ e kind detail message, interpret strict body.text.toList = .error e ∧
          '\n' ∉ message.toList ∧ outcome = .ok ⟨1, "", message ++ "\n"⟩ ∧ LoopSays message ∧
          response.Refuses kind detail ∧
          (kind = "lex" ∧ message = "Lex error: " ++ detail ∨
            kind = "parse" ∧ message = "Parse error: " ++ detail)) := by
  intro outcome LoopSays
  have hne : body.text ≠ "" := by
    rintro h
    rw [h] at hblank
    cases hblank
  have hanswer := loopAnswers_quiet hloop hunbroken hblank
  rw [hloopStrict] at hanswer
  refine ⟨fun hnests limit hlimit => ?_, _, hposts.gets serviceSettings, ?_⟩
  · have hunlimited := parseWithin_eq_of_nestsWithin hnests hlimit
    have husual := parseWithin_eq_of_nestsWithin hnests (by decide : 16000 ≤ Parser.depthLimit)
    rw [interpret, interpretWithin, interpretWithin, hunlimited, husual]
  cases h : interpret strict body.text.toList with
  | ok v =>
    rw [h, answerOf_ok] at hanswer
    refine .inl ⟨v, rfl, run_evaluation_of_ok hquiet hsteps hsep hne hstrict h input,
      fun hshow => ?_, fun hshow => ?_, ?_⟩
    · rw [hshow] at hanswer
      simpa [withLineEnds_nil] using hanswer
    · rwa [hshow, if_pos rfl] at hanswer
    · have heq : Service.answer serviceSettings .evaluate body = Service.evaluated body.text v := by
        simp [Service.answer, hserviceStrict, h]
      exact heq ▸ Service.gives_evaluated body.text v
  | error e =>
    rw [h] at hanswer
    have heq : Service.answer serviceSettings .evaluate body = Service.wrongText e := by
      simp [Service.answer, hserviceStrict, h]
    refine .inr ⟨e, errorKind e, e.message, describe e, rfl, lineFeed_notMem_describe e,
      run_evaluation_of_error hquiet hsep hne hstrict h input, hanswer,
      heq ▸ Service.refuses_wrongText e, ?_⟩
    cases e with
    | lexical error => exact .inl ⟨rfl, rfl⟩
    | grammatical error => exact .inr ⟨rfl, rfl⟩

/-- The request for the value of a text, in the strictness of the settings. -/
def asking (text : String) : Request := Service.posting .evaluate (.object [("text", .string text)])

theorem asking_posts (text : String) : (asking text).Posts .evaluate ⟨text, none⟩ :=
  Service.posts_document .evaluate rfl (.object rfl (by simp [Json.Fits.string]))

/-- A quotient with a parenthesis too many has a value where texts are not taken strictly. -/
theorem ways_agree_division :
    let showing : Settings := { usual with showSteps := true }
    Quiet [] usual ∧ Quiet [("ARYTMOS_SHOW_STEPS", "yes")] showing ∧
    run ⟨["eval", "--text=-10/0)"], [], "", .unicode⟩ = .ok ⟨0, "-inf\n", ""⟩ ∧
    LoopAnswers [("ARYTMOS_SHOW_STEPS", "yes")] "expr> " "-10/0)".toList
      "  -(10) = -10\n  -10 / 0 = -inf\n-inf" "" ∧
    ∃ response : Response, (asking "-10/0)").Gets usual response ∧ response.status = 200 ∧
      response.member? "display" = some (.string "-inf") := by
  intro showing
  have hquiet : Quiet [] usual := ⟨.warning, configure_nil, rfl⟩
  have hloop : Quiet [("ARYTMOS_SHOW_STEPS", "yes")] showing := ⟨.warning, by rfl, rfl⟩
  let e : Expr := .binary (.unary .minus (.number 10)) (.multiplicative .divide) (.number 0)
  have hparse : parse false "-10/0)".toList = .ok e := by cbv
  have hvalue : interpret false "-10/0)".toList = .ok e.evaluate :=
    interpret_of_parse hparse
  have hshown : e.evaluate.value.display = "-inf" := by
    rw [Expr.evaluate_eq]
    decide +kernel
  have hsteps : e.evaluate.steps = ["-(10) = -10", "-10 / 0 = -inf"] := by
    rw [Expr.evaluate_eq]
    decide +kernel
  obtain ⟨-, response, hgets, ⟨v, hv, hcommand, -, hlines, hgives⟩ | ⟨e', _, _, _, he, -⟩⟩ :=
    ways_agree (by decide) (by decide) (by decide) hquiet hloop rfl
      (rfl : (false || usual.strict) = false) rfl rfl (asking_posts "-10/0)") ""
  · obtain rfl := Except.ok.inj (hvalue.symm.trans hv)
    rw [hshown] at hcommand
    have hlines := hlines rfl
    rw [hsteps, hshown] at hlines
    exact ⟨hquiet, hloop, hcommand, hlines, response, hgets, hgives.status, hshown ▸ hgives.display⟩
  · cases hvalue.symm.trans he

/-- Two dashes are no text behind the name of the option, and the input is read instead; the loop
and the service refuse them. -/
theorem ways_differ_dashes :
    let detail := "expected kind PAREN('(') | ADDITIVE_OP | INTEGER but found kind EOF"
    run ⟨["eval", "--text=--"], [], "", .unicode⟩ = .ok ⟨1, "", noText ++ "\n"⟩ ∧
    LoopAnswers [] "expr> " "--".toList ("Parse error: " ++ detail) "" ∧
    ∃ response : Response, (asking "--").Gets usual response ∧ response.Refuses "parse" detail := by
  intro detail
  have hread : readArguments ["eval", "--text=--"] = some (.value, .none) := by decide +kernel
  have hwrong : interpret false "--".toList = .error (.grammatical (.noOperand .endOfText)) := by cbv
  have hrefused : (Service.answer usual .evaluate ⟨"--", none⟩).Refuses "parse" detail := by
    have heq : Service.answer usual .evaluate ⟨"--", none⟩ =
        Service.wrongText (.grammatical (.noOperand .endOfText)) := by
      simp only [Service.answer, Option.getD_none, usual, hwrong]
    exact heq ▸ Service.refuses_wrongText _
  have hloop := loopAnswers_quiet ⟨.warning, configure_nil, rfl⟩
    (by decide : Text.Unbroken "--".toList) (by decide)
  refine ⟨?_, ?_, _, (asking_posts "--").gets usual, hrefused⟩
  · rw [run_of_perform hread configure_nil]
    rfl
  · rwa [show interpret usual.strict "--".toList = _ from hwrong] at hloop

end Calculator.Command
