/-
The log of an interpretation says what was done, and keeping it changes nothing
(`trace_faithful`).

The parser keeps what it fetched, but no rule looks at that: the parser with any
other record comes to the same outcome (`Parser.tree_forgets`), since it differs
in nothing that a fetch depends on. The record itself is accounted for by what
holds after any calls on a new parser (`Parser.History.rests`), of which
parsing is one; and the record of the evaluator, which works with a stack, is
that of a walk through the tree (`Expr.account`).
-/
import Calculator.Proofs.Command.Run
import Calculator.Proofs.Expr.Restart

namespace Calculator

open Cursor

/-! ## The parser -/

namespace Parser

theorem mapError_shift_zero (o : Except ExpressionError Expr) :
    o.mapError (·.shift 0) = o := by
  match o with
  | .ok _ | .error (.lexical _) | .error (.grammatical _) => rfl

/-- A parser comes to the same outcome whatever is on its record. -/
theorem tree_forgets (p : Parser) (record : List Reading) :
    ({ p with fetched := record } : Parser).tree.1 = p.tree.1 := by
  have hempty : ∀ p : Parser, p.tree.1 = ({ p with fetched := [] } : Parser).tree.1 := by
    intro p
    have hshifted : Shifted 0 p.fetched.length p { p with fetched := [] } :=
      ⟨rfl, rfl, (Nat.zero_add _).symm, rfl⟩
    obtain ⟨o, q, htree, ho, -⟩ := hshifted.tree (o := p.tree.1) (q := p.tree.2) rfl
    rw [ho, htree, mapError_shift_zero]
  rw [hempty, hempty p]

end Parser

open Calculator.Parser

/-- The readings by which a text comes to an outcome of its parser. -/
inductive Pulls (strict : Bool) (text : List Char) : Except ExpressionError Expr → List Reading → Prop
    where
  /-- There is none if the first token cannot be read. -/
  | none {e : LexicalError} (illegal : (start text).answer 0 = .error e) :
      Pulls strict text (.error (.lexical e)) []
  /-- Otherwise the parser ends with some tokens eaten. The readings are of these in order, each
  with the position behind it, and then of the lookahead; if the outcome is a lexical error, it is
  what comes next. -/
  | through {o : Except ExpressionError Expr} {p q : Parser} {k : Nat} {readings : List Reading}
      (new : ofText strict text = .ok p) (tree : p.tree = (o, q)) (ate : Ate p k q)
      (length : readings.length = k + 1)
      (inOrder : ∀ i ≤ k, ∃ t, (start text).answer i = .ok t ∧
        readings[i]? = some ⟨t, ((start text).after (i + 1)).position⟩)
      (last : (start text).answer k = .ok q.lookahead)
      (next : ∀ e, o = .error (.lexical e) → (start text).answer (k + 1) = .error e) :
      Pulls strict text o readings

theorem pulls_fetched {strict : Bool} {text : List Char} {o : Except ExpressionError Expr}
    {p q : Parser} (hp : ofText strict text = .ok p) (htree : p.tree = (o, q)) :
    Pulls strict text o q.fetched.reverse := by
  have hrun : Call.tree.run p = (o.map some, q) := by rw [Call.run, htree]
  have hcalls : History p [o.map some] q := .call .start .tree hrun
  obtain ⟨⟨n, hate⟩, r, hr, hrests⟩ := hcalls.rests (tracks_ofText hp)
  have hstands : StandsAfter text [o.map some] q := hr.standsAfter hrests
  obtain ⟨hlength, hlog⟩ := hstands.log
  have hall : Ate p q.taken q := (taken_of_ate hp hate).symm ▸ hate
  refine .through hp htree hall (by rw [List.length_reverse, hlength]) hlog hstands.lookahead
    fun e ho => ?_
  obtain ⟨-, hanswer, -⟩ := hstands.stuck e (by rw [ho]; exact .head _)
  exact hanswer

/-! ## The tokenizer -/

/-- The kind and the text by which a token is told. -/
def Token.account : Token → String × String
  | .integer n => ("INTEGER", Numeral.text n)
  | .additive .plus => ("ADDITIVE_OP", "+")
  | .additive .minus => ("ADDITIVE_OP", "-")
  | .multiplicative .times => ("MULTIPLICATIVE_OP", "*")
  | .multiplicative .divide => ("MULTIPLICATIVE_OP", "/")
  | .power => ("POWER", "^")
  | .paren .opening => ("PAREN", "(")
  | .paren .closing => ("PAREN", ")")
  | .endOfText => ("EOF", "<eof>")

theorem Token.account_eq (t : Token) : t.account = (t.kind.name, t.text) := by
  cases t with
  | additive sign => cases sign <;> rfl
  | multiplicative scaling => cases scaling <;> rfl
  | paren side => cases side <;> rfl
  | _ => rfl

theorem Reading.logLine_eq (r : Reading) : r.logLine = ⟨"arytmos.tokenizer",
    "token " ++ r.token.account.1 ++ " at " ++ r.after.repr ++ ": " ++ r.token.account.2⟩ := by
  rw [Token.account_eq]
  rfl

/-! ## The evaluator -/

/-- The words on the evaluation of an expression: a node is announced before its operands, and
reported with its value behind them. -/
def Expr.account : Expr → List String
  | e@(number _) => ["at NumberLiteral", "from NumberLiteral got " ++ e.value.text]
  | e@(unary _ operand) =>
    "at UnaryOperation" :: (operand.account ++ ["from UnaryOperation got " ++ e.value.text])
  | e@(binary left _ right) =>
    "at BinaryOperation" ::
      (left.account ++ right.account ++ ["from BinaryOperation got " ++ e.value.text])

theorem Expr.map_message_events (e : Expr) : e.events.map Event.message = e.account := by
  induction e with
  | number n => rfl
  | unary sign operand ih =>
    rw [events, account, List.map_cons, List.map_append, ih]
    rfl
  | binary left op right ih₁ ih₂ =>
    rw [events, account, List.map_cons, List.map_append, List.map_append, ih₁, ih₂]
    rfl

theorem map_logLine_events (e : Expr) :
    e.evaluate.events.map Event.logLine = e.account.map (LogLine.mk "arytmos.evaluator") := by
  rw [Expr.evaluate_eq, ← Expr.map_message_events, List.map_map]
  rfl

/-! ## The log -/

/-- A text that is parsed has what the parser pulled on record, whatever comes of it. -/
theorem pulls_traceParse (strict : Bool) (text : List Char) :
    ∃ readings, Pulls strict text (parse strict text) readings ∧
      (traceParse strict text).log = readings.map Reading.logLine := by
  rcases hp : ofText strict text with e | p
  · have hfirst : (start text).answer 0 = .error e := by
      unfold ofText at hp
      split at hp
      next => cases hp
      next e' c hn =>
        cases hp
        exact congrArg Prod.fst hn
    have hparse : parse strict text = .error (.lexical e) := by
      unfold parse parseWithin
      rw [hp]
    refine ⟨[], hparse ▸ .none hfirst, ?_⟩
    unfold traceParse
    rw [hp]
    rfl
  · have htree : p.tree = (parse strict text, p.tree.2) := by
      unfold parse parseWithin
      rw [hp]
      rfl
    refine ⟨_, pulls_fetched hp htree, ?_⟩
    unfold traceParse
    rw [hp]

/-- **The log says what was done, and changes nothing.** A text that is traced has the result that
it has without. Its log has a line for each token that the parser pulled, in order up to the
lookahead that it ended with: its kind, the position of the cursor behind it, and its text. Behind
these, if there is a tree, is the account of its evaluation. Nothing that was recorded is looked at
by the parser. -/
theorem trace_faithful (strict : Bool) (text : List Char) :
    (trace strict text).result = interpret strict text ∧
    (∃ readings, Pulls strict text (parse strict text) readings ∧
      (trace strict text).log =
        (readings.map fun r => ⟨"arytmos.tokenizer",
          "token " ++ r.token.account.1 ++ " at " ++ r.after.repr ++ ": " ++ r.token.account.2⟩) ++
        match parse strict text with
        | .ok e => e.account.map (LogLine.mk "arytmos.evaluator")
        | .error _ => []) ∧
    ∀ (p : Parser) record, ({ p with fetched := record } : Parser).tree.1 = p.tree.1 := by
  obtain ⟨readings, hpulls, hlog⟩ := pulls_traceParse strict text
  rw [funext Reading.logLine_eq] at hlog
  refine ⟨trace_result strict text, ⟨readings, hpulls, ?_⟩, tree_forgets⟩
  have hresult := traceParse_result strict text
  unfold trace
  rcases htrace : traceParse strict text with ⟨log, e | e⟩
  · rw [htrace] at hlog hresult
    rw [← hlog, ← hresult]
    exact (List.append_nil log).symm
  · rw [htrace] at hlog hresult
    rw [← hlog, ← hresult]
    exact congrArg (log ++ ·) (map_logLine_events e)

end Calculator
