/-
The tasks of the service agree with each other and with the pipeline
(`tasks_agree`): a value is given where a tree is, it is the value of that tree,
and one refusal stands for both; tokens are given whatever the strictness.

The members of a response are read off it by name. What is shown of a value tells
whether it is finite (`Binary64.isFinite_eq_false_iff`).
-/
import Calculator.Proofs.Binary64.Display
import Calculator.Proofs.Expr.RoundTrip
import Calculator.Proofs.Service.Request

namespace Calculator.Service

/-! ## Responses -/

namespace Response

/-- The member of the body of a response. -/
def member? (x : Response) (name : String) : Option Json := x.body.member? name

/-- The response gives an evaluation: the value as a number, or null if it is not finite. -/
structure Gives (x : Response) (v : Evaluation) : Prop where
  status : x.status = 200
  display : x.member? "display" = some (.string v.value.display)
  steps : x.member? "steps" = some (.array (v.steps.map .string))
  value : v.value.isFinite = true → x.member? "value" = some (.real v.value)
  null_iff : x.member? "value" = some .null ↔ x.member? "is_finite" = some (.bool false)
  notFinite_iff : x.member? "is_finite" = some (.bool false) ↔
    ∃ shown ∈ Binary64.notFinite, x.member? "display" = some (.string shown)

/-- The response gives a tree and its text. -/
structure GivesTree (x : Response) (e : Expr) : Prop where
  status : x.status = 200
  tree : x.member? "ast" = some e.document
  display : x.member? "display" = some (.string e.text)

/-- The response gives tokens. -/
structure GivesTokens (x : Response) (ts : List Token) : Prop where
  status : x.status = 200
  tokens : x.member? "tokens" = some (.array (ts.map Token.document))

/-- The response is a refusal for an error of this kind. -/
structure Refuses (x : Response) (kind message : String) : Prop where
  status : x.status = 422
  body : x.body = .object [("error", .string kind), ("detail", .string message)]

end Response

/-- The kind of an error. -/
def errorKind : ExpressionError → String
  | .lexical _ => "lex"
  | .grammatical _ => "parse"

theorem refuses_wrongText (e : ExpressionError) : (wrongText e).Refuses (errorKind e) e.message := by
  cases e <;> exact ⟨rfl, rfl⟩

/-- What is given of an evaluation is its value, and null for one that is displayed as no number. -/
theorem gives_evaluated (text : String) (v : Evaluation) : (evaluated text v).Gives v := by
  have hvalue : (evaluated text v).member? "value" = some (valueDocument v.value) := rfl
  have hfinite : (evaluated text v).member? "is_finite" = some (.bool v.value.isFinite) := rfl
  have hdisplay : (evaluated text v).member? "display" = some (.string v.value.display) := rfl
  refine ⟨rfl, hdisplay, rfl, fun h => ?value, ?null, ?notFinite⟩
  case value => rw [hvalue, valueDocument, if_pos h]
  case null =>
    rw [hvalue, hfinite, valueDocument]
    cases v.value.isFinite <;> simp
  case notFinite =>
    rw [hfinite, hdisplay, Option.some.injEq, Json.bool.injEq, v.value.isFinite_eq_false_iff]
    simp

theorem givesTree_parsed (text : String) (e : Expr) : (parsed text e).GivesTree e :=
  ⟨rfl, rfl, rfl⟩

theorem givesTokens_tokenized (text : String) (ts : List Token) :
    (tokenized text ts).GivesTokens ts :=
  ⟨rfl, rfl⟩

/-! ## Tasks -/

theorem answer_of_parse_ok {settings : Settings} {body : Body} {e : Expr}
    (h : parse (body.strict.getD settings.strict) body.text.toList = .ok e) :
    answer settings .evaluate body = evaluated body.text e.evaluate ∧
      answer settings .parse body = parsed body.text e := by
  simp [answer, interpret_eq_map, h, Except.map]

theorem answer_of_parse_error {settings : Settings} {body : Body} {e : ExpressionError}
    (h : parse (body.strict.getD settings.strict) body.text.toList = .error e) :
    answer settings .evaluate body = wrongText e ∧ answer settings .parse body = wrongText e := by
  simp [answer, interpret_eq_map, h, Except.map]

theorem answer_of_tokenize_ok {settings : Settings} {body : Body} {ts : List Token}
    (h : tokenize body.text.toList = .ok ts) :
    answer settings .tokenize body = tokenized body.text ts := by
  simp [answer, h]

theorem answer_of_tokenize_error {settings : Settings} {body : Body} {e : LexicalError}
    (h : tokenize body.text.toList = .error e) :
    answer settings .tokenize body = wrongText (.lexical e) := by
  simp [answer, h]

/-- **The tasks agree with each other and with the pipeline,** whatever else is asked for. An
evaluation is given if and only if the text is parsed, strictly if the body asks for that or leaves
it to settings that do; then the tree is given, too, and otherwise both are refused alike. Tokens
are given by the text alone. -/
theorem tasks_agree (settings : Settings) (body : Body) :
    let strict := body.strict.getD settings.strict
    let text := body.text.toList
    ∃ evaluation tree tokens : Response,
      (∀ r : Request, (r.Posts .evaluate body → r.Gets settings evaluation) ∧
        (r.Posts .parse body → r.Gets settings tree) ∧
        ∀ asked, r.Posts .tokenize ⟨body.text, asked⟩ → r.Gets settings tokens) ∧
      (evaluation.status = 200 ↔ ∃ e, parse strict text = .ok e) ∧
      (∀ e, parse strict text = .ok e → tree.GivesTree e ∧
        ∃ v, interpret strict text = .ok v ∧ evaluation.Gives v) ∧
      (∀ e, parse strict text = .error e →
        evaluation.Refuses (errorKind e) e.message ∧ tree.Refuses (errorKind e) e.message) ∧
      (∀ ts, tokenize text = .ok ts → tokens.GivesTokens ts) ∧
      (∀ e, tokenize text = .error e → tokens.Refuses "lex" e.message) ∧
      (tokens.status = 422 ↔ ∃ e, tokenize text = .error e) := by
  intro strict text
  have hevaluation : ∀ e, parse strict text = .ok e →
      (answer settings .parse body).GivesTree e ∧
        ∃ v, interpret strict text = .ok v ∧ (answer settings .evaluate body).Gives v := by
    intro e h
    obtain ⟨hvalue, htree⟩ := answer_of_parse_ok h
    rw [hvalue, htree]
    exact ⟨givesTree_parsed _ e, e.evaluate, by rw [interpret_eq_map, h]; rfl, gives_evaluated _ _⟩
  have hrefusal : ∀ e, parse strict text = .error e →
      (answer settings .evaluate body).Refuses (errorKind e) e.message ∧
        (answer settings .parse body).Refuses (errorKind e) e.message := by
    intro e h
    obtain ⟨hvalue, htree⟩ := answer_of_parse_error h
    rw [hvalue, htree]
    exact ⟨refuses_wrongText e, refuses_wrongText e⟩
  have htokens : ∀ ts, tokenize text = .ok ts →
      (answer settings .tokenize body).GivesTokens ts := by
    intro ts h
    rw [answer_of_tokenize_ok h]
    exact givesTokens_tokenized _ ts
  have hillegal : ∀ e, tokenize text = .error e →
      (answer settings .tokenize body).Refuses "lex" e.message := by
    intro e h
    rw [answer_of_tokenize_error h]
    exact refuses_wrongText (.lexical e)
  refine ⟨answer settings .evaluate body, answer settings .parse body,
    answer settings .tokenize body, fun r => ⟨(·.gets settings), (·.gets settings), fun _ h => ?_⟩,
    ?_, hevaluation, hrefusal, htokens, hillegal, ?_⟩
  · exact h.gets settings
  · cases h : parse strict text with
    | ok e =>
      obtain ⟨-, v, -, hgives⟩ := hevaluation e h
      simp [hgives.status]
    | error e => simp [(hrefusal e h).1.status]
  · cases h : tokenize text with
    | ok ts => simp [(htokens ts h).status]
    | error e => simp [(hillegal e h).status]

/-- A division by zero and an illegal character, posted to settings that ask for strictness with a
body that has null for it: the value of the one is null where its tree is given, and the other is
refused twice alike. -/
theorem tasks_agree_division :
    let settings : Settings := ⟨"Calculator", "1", "WARNING", "> ", false, true⟩
    let doc (text : String) : Json := .object [("text", .string text), ("strict", .null)]
    (∃ x y : Response, (posting .evaluate (doc "(1 / 0)")).Gets settings x ∧
      (posting .parse (doc "(1 / 0)")).Gets settings y ∧
      x.status = 200 ∧ x.member? "value" = some .null ∧ x.member? "display" = some (.string "inf") ∧
      y.GivesTree (.binary (.number 1) (.multiplicative .divide) (.number 0))) ∧
    ∃ x y : Response, (posting .evaluate (doc "#")).Gets settings x ∧
      (posting .parse (doc "#")).Gets settings y ∧
      x.Refuses "lex" "unexpected character '#' at position 0" ∧
      y.Refuses "lex" "unexpected character '#' at position 0" := by
  intro settings doc
  have hposts (task : Task) (text : String) : (posting task (doc text)).Posts task ⟨text, none⟩ :=
    posts_document task rfl (.object rfl (by simp [Json.Fits.string, Json.Fits.null]))
  constructor
  · let e : Expr := .binary (.number 1) (.multiplicative .divide) (.number 0)
    have htext : e.text = "(1 / 0)" := by decide +kernel
    have hvalue : e.value = .infinity false := by decide +kernel
    have hnatural : e.IsNatural := by decide
    have hshort : e.IsShort := by decide
    have hshallow : Parser.exceeds e.nesting (some Parser.depthLimit) = false := by decide
    have hparse : parse true "(1 / 0)".toList = .ok e :=
      htext ▸ parse_of_renders hnatural hshallow (e.renders_text hnatural hshort)
    obtain ⟨x, y, _, hgets, hstatus, hgives, -⟩ := tasks_agree settings ⟨"(1 / 0)", none⟩
    obtain ⟨hy, v, hv, hx⟩ := hgives e hparse
    have hinterpret : interpret true "(1 / 0)".toList = .ok e.evaluate := by
      rw [interpret_eq_map, hparse]
      rfl
    obtain rfl : e.evaluate = v := Except.ok.inj (hinterpret.symm.trans hv)
    have hdisplay := hx.display
    rw [Expr.evaluate_eq, hvalue] at hdisplay
    have hfinite := hx.notFinite_iff.2 ⟨"inf", by decide, hdisplay⟩
    exact ⟨x, y, (hgets _).1 (hposts .evaluate _), (hgets _).2.1 (hposts .parse _),
      hstatus.2 ⟨e, hparse⟩, hx.null_iff.2 hfinite, hdisplay, hy⟩
  · have hparse : parse true "#".toList = .error (.lexical ⟨'#', 0⟩) := rfl
    have hmessage : (ExpressionError.lexical ⟨'#', 0⟩).message =
        "unexpected character '#' at position 0" := by decide +kernel
    obtain ⟨x, y, _, hgets, -, -, hrefuses, -⟩ := tasks_agree settings ⟨"#", none⟩
    obtain ⟨hx, hy⟩ := hrefuses _ hparse
    rw [hmessage] at hx hy
    exact ⟨x, y, (hgets _).1 (hposts .evaluate _), (hgets _).2.1 (hposts .parse _), hx, hy⟩

end Calculator.Service
