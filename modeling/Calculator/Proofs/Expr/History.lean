/-
Any calls on one parser one after another, and where in its text they leave it.

What a parser did so far shows in three things: the tokens it fetched are the
first of its text in order, the last of them is its lookahead, and its cursor is
behind that one (`Tracks`). A fetch that succeeds keeps this and moves one token
on; one that fails leaves all but the cursor, which has come to the illegal
character and stays there (`fetch_error`).

A call fetches some tokens, and then stays or fails to fetch one more
(`Call.fetches`). So after any history the parser stands where it tracks its
text, or is stuck behind such a place (`Rests`), and from a stuck parser every
call comes back to it (`Call.run_of_stuck`). `history_stands` is what follows.
-/
import Calculator.Proofs.Expr.Lookahead
import Calculator.Proofs.Token.Position

namespace Calculator

open Cursor

namespace Parser

/-! ## Calls -/

/-- A call on a parser: for an expression, or for one token of a kind. -/
inductive Call where
  | tree
  | eat (kind : TokenKind)

/-- What a call replies: the tree of an expression, or nothing for a token that was eaten. -/
abbrev Reply := Except ExpressionError (Option Expr)

/-- The reply to a call, and the parser that the call leaves. -/
def Call.run : Call → Parser → Reply × Parser
  | tree, p => (p.tree.1.map some, p.tree.2)
  | eat kind, p => ((p.eat kind).1.map fun _ => none, (p.eat kind).2)

/-- Calls on a parser one after another: their replies, and the parser that they leave. -/
inductive History (p : Parser) : List Reply → Parser → Prop where
  | start : History p [] p
  | call {replies : List Reply} {reply : Reply} {q r : Parser} (before : History p replies q)
      (call : Call) (run : call.run q = (reply, r)) : History p (replies ++ [reply]) r

/-- The parser becomes the other by eating one token after another, so many of them; any attempt
may fail. -/
inductive Ate (p : Parser) : Nat → Parser → Prop where
  | nothing : Ate p 0 p
  | eaten {q r : Parser} {n : Nat} {kind : TokenKind} (before : Ate p n q)
      (eat : q.eat kind = (.ok (), r)) : Ate p (n + 1) r
  | failed {q r : Parser} {n : Nat} {kind : TokenKind} {e : ExpressionError} (before : Ate p n q)
      (eat : q.eat kind = (.error e, r)) : Ate p n r

/-- How many tokens a parser has eaten: all that it fetched but its lookahead. -/
def taken (p : Parser) : Nat := p.fetched.length - 1

theorem eat_lookahead (p : Parser) : p.eat p.lookahead.kind = p.fetch := if_pos rfl

theorem eat_mismatch {p : Parser} {kind : TokenKind} (h : p.lookahead.kind ≠ kind) :
    p.eat kind = (.error (.grammatical (.mismatch kind p.lookahead.kind)), p) := if_neg h

/-! ## One fetch -/

/-- A fetch that fails has come to the illegal character, and fails again from there. Nothing but
the cursor has changed. -/
theorem fetch_error {p q : Parser} {e : LexicalError} (h : p.fetch = (.error (.lexical e), q)) :
    q = { p with cursor := p.cursor.skipSpaces } ∧ p.cursor.next.1 = .error e ∧
      q.cursor.position = e.position ∧ q.fetch = (.error (.lexical e), q) := by
  rcases hn : p.cursor.next with ⟨e' | t, c⟩
  · rw [fetch_of_next_error hn] at h
    cases h
    obtain ⟨rfl, hpos⟩ := next_of_error hn
    exact ⟨rfl, rfl, hpos, fetch_of_next_error (next_next_of_error hn)⟩
  · rw [fetch_of_next_ok hn] at h
    cases h

/-- The readings are those of the first calls on the cursor, the latest first. -/
def IsLog (c : Cursor) : List Reading → Prop
  | [] => True
  | reading :: before =>
    c.answer before.length = .ok reading.token ∧
      (c.after (before.length + 1)).position = reading.after ∧ IsLog c before

theorem IsLog.getElem? {c : Cursor} {log : List Reading} (h : IsLog c log) {i : Nat}
    (hi : i < log.length) :
    ∃ t, c.answer i = .ok t ∧ log.reverse[i]? = some ⟨t, (c.after (i + 1)).position⟩ := by
  induction log with
  | nil => cases hi
  | cons reading before ih =>
    obtain ⟨hanswer, hafter, hbefore⟩ := h
    rw [List.reverse_cons]
    by_cases hlast : i < before.length
    · rw [List.getElem?_append_left (by rwa [List.length_reverse])]
      exact ih hbefore hlast
    · obtain rfl : i = before.length := by
        rw [List.length_cons] at hi
        omega
      refine ⟨reading.token, hanswer, ?_⟩
      rw [List.getElem?_append_right (Nat.le_of_eq List.length_reverse), List.length_reverse,
        Nat.sub_self, hafter]
      rfl

/-- The parser of that strictness has fetched the first tokens of the text, and the last of them is
its lookahead, behind which its cursor is. -/
structure Tracks (strict : Bool) (text : List Char) (p : Parser) : Prop where
  strict_eq : p.strict = strict
  log : IsLog (start text) p.fetched
  fetched : p.fetched.length = p.taken + 1
  stands : p.At ((start text).after p.taken)

theorem tracks_ofText {strict : Bool} {text : List Char} {p : Parser}
    (h : ofText strict text = .ok p) : Tracks strict text p := by
  unfold ofText at h
  split at h
  next t c hn =>
    cases h
    exact ⟨rfl, ⟨congrArg Prod.fst hn, congrArg (·.2.position) hn, trivial⟩, rfl, hn⟩
  next => cases h

namespace Tracks

variable {strict : Bool} {text : List Char} {p q : Parser}

theorem cursor_eq (h : Tracks strict text p) : p.cursor = (start text).after (p.taken + 1) := by
  rw [after_add]
  exact (congrArg Prod.snd h.stands).symm

theorem answer_eq (h : Tracks strict text p) : (start text).answer p.taken = .ok p.lookahead :=
  h.stands.next_eq

theorem fetch (h : Tracks strict text p) (fetch : p.fetch = (.ok (), q)) :
    Tracks strict text q := by
  obtain ⟨hstrict, hat, hlog⟩ := fetch_ok fetch
  have hlen : p.fetched.length = p.taken + 1 := h.fetched
  have htaken : q.taken = p.taken + 1 := by rw [taken, hlog, List.length_cons, hlen]; rfl
  rw [h.cursor_eq, ← htaken] at hat
  refine ⟨hstrict.trans h.strict_eq, ?_, by rw [hlog, List.length_cons, hlen, htaken], hat⟩
  rw [hlog]
  refine ⟨?_, ?_, h.log⟩
  · rw [hlen, ← htaken]
    exact hat.next_eq
  · rw [hlen, ← htaken, after_add]
    exact congrArg (·.2.position) hat

end Tracks

/-! ## One call -/

/-- The parser fetches so many times and becomes the other. -/
inductive Fetches : Parser → Nat → Parser → Prop where
  | nil {p : Parser} : Fetches p 0 p
  | cons {p q r : Parser} {n : Nat} (fetch : p.fetch = (.ok (), q)) (rest : Fetches q n r) :
      Fetches p (n + 1) r

theorem Eats.fetches {p q : Parser} {ts : List Token} (h : Eats p ts q) :
    Fetches p ts.length q := by
  induction h with
  | nil => exact .nil
  | cons _ fetch _ ih => exact .cons fetch ih

theorem Fetches.tracks {strict : Bool} {text : List Char} {p q : Parser} {n : Nat}
    (h : Fetches p n q) (hp : Tracks strict text p) : Tracks strict text q := by
  induction h with
  | nil => exact hp
  | cons fetch _ ih => exact ih (hp.fetch fetch)

theorem Fetches.ate {p q r : Parser} {m n : Nat} (h : Fetches q n r) (before : Ate p m q) :
    Ate p (m + n) r := by
  induction h generalizing m with
  | nil => exact before
  | @cons q _ _ n fetch _ ih =>
    rw [Nat.add_comm n, ← Nat.add_assoc]
    exact ih (before.eaten ((eat_lookahead q).trans fetch))

/-- A run either stays where it has come to, or ends with the error of a fetch there. -/
theorem LeavesLike.self {α : Type} {r q : Parser} {o : Except ExpressionError α}
    (h : LeavesLike o r o q) :
    (¬IsLexical o ∧ q = r) ∨
      ∃ e, o = .error (.lexical e) ∧ r.fetch = (.error (.lexical e), q) := by
  by_cases hlex : IsLexical o
  · obtain ⟨e, rfl⟩ := hlex
    cases h with
    | stays answers => exact absurd ⟨e, rfl⟩ answers
    | unread fetch => exact .inr ⟨e, rfl, fetch⟩
  · exact .inl ⟨hlex, (h.eq_of_answers hlex).2⟩

/-- A call fetches some tokens, and then stays there with its reply or cannot fetch one more. -/
theorem Call.fetches {call : Call} {p q : Parser} {reply : Reply} (h : call.run p = (reply, q)) :
    ∃ n r, Fetches p n r ∧ LeavesLike reply r reply q := by
  cases call with
  | tree =>
    rcases htree : p.tree with ⟨o, s⟩
    rw [run, htree] at h
    cases h
    obtain ⟨ts, r, heats, hleaves, -⟩ := treeWithin_replays htree
    exact ⟨ts.length, r, heats.fetches, hleaves.map some⟩
  | eat kind =>
    by_cases hkind : p.lookahead.kind = kind
    · subst hkind
      rw [run, eat_lookahead] at h
      rcases hfetch : p.fetch with ⟨e | u, s⟩
      · rw [hfetch] at h
        cases h
        obtain ⟨e, rfl⟩ := exists_lexical_of_fetch hfetch
        exact ⟨0, p, .nil, .unread hfetch⟩
      · rw [hfetch] at h
        cases h
        exact ⟨1, _, .cons hfetch .nil, .stays (not_isLexical_ok _)⟩
    · rw [run, eat_mismatch hkind] at h
      cases h
      exact ⟨0, p, .nil, .stays (not_isLexical_grammatical _)⟩

/-- A parser that is stuck stays so, and where a call matches its lookahead it meets the same
character. -/
theorem Call.run_of_stuck {call : Call} {p q : Parser} {reply : Reply} {e : LexicalError}
    (stuck : p.fetch = (.error (.lexical e), p)) (h : call.run p = (reply, q)) :
    q = p ∧ ∀ e', reply = .error (.lexical e') → e' = e := by
  obtain ⟨n, r, hfetches, hleaves⟩ := call.fetches h
  cases hfetches with
  | cons fetch _ => cases stuck.symm.trans fetch
  | nil =>
    obtain ⟨hlex, rfl⟩ | ⟨e', rfl, fetch⟩ := hleaves.self
    · exact ⟨rfl, fun e' he' => absurd ⟨e', he'⟩ hlex⟩
    · cases stuck.symm.trans fetch
      exact ⟨rfl, fun _ he' => by cases he'; rfl⟩

/-! ## Histories -/

/-- After the replies the parser rests at the other, or it has come to an illegal character behind
it, which is the only one in the replies. -/
inductive Rests (replies : List Reply) : Parser → Parser → Prop where
  | free {r : Parser} (legal : ∀ e, .error (.lexical e) ∉ replies) : Rests replies r r
  | stuck {r q : Parser} {e : LexicalError} (fetch : r.fetch = (.error (.lexical e), q))
      (met : .error (.lexical e) ∈ replies)
      (only : ∀ e', .error (.lexical e') ∈ replies → e' = e) : Rests replies r q

theorem History.rests {strict : Bool} {text : List Char} {p q : Parser} {replies : List Reply}
    (h : History p replies q) (hp : Tracks strict text p) :
    (∃ n, Ate p n q) ∧ ∃ r, Tracks strict text r ∧ Rests replies r q := by
  induction h with
  | start => exact ⟨⟨0, .nothing⟩, p, hp, .free nofun⟩
  | @call replies reply q s _ call run ih =>
    obtain ⟨⟨n, hate⟩, r, hr, hrests⟩ := ih
    have hlast : ∀ e, .error (.lexical e) ∈ replies ++ [reply] →
        .error (.lexical e) ∈ replies ∨ reply = .error (.lexical e) := fun e he =>
      (List.mem_append.1 he).imp_right fun h => (List.mem_singleton.1 h).symm
    cases hrests with
    | free legal =>
      obtain ⟨m, r', hfetches, hleaves⟩ := call.fetches run
      have hate' := hfetches.ate hate
      obtain ⟨hlex, rfl⟩ | ⟨e, rfl, fetch⟩ := hleaves.self
      · refine ⟨⟨_, hate'⟩, s, hfetches.tracks hr, .free fun e he => ?_⟩
        exact (hlast e he).elim (legal e) fun h => hlex ⟨e, h⟩
      · refine ⟨⟨_, hate'.failed ((eat_lookahead r').trans fetch)⟩, r', hfetches.tracks hr,
          .stuck fetch (by simp) fun e' he' => ?_⟩
        refine (hlast e' he').elim (fun h => absurd h (legal e')) fun h => ?_
        cases h
        rfl
    | stuck fetch met only =>
      obtain ⟨-, -, -, hstuck⟩ := fetch_error fetch
      obtain ⟨rfl, hreply⟩ := call.run_of_stuck hstuck run
      refine ⟨⟨n, hate⟩, r, hr, .stuck fetch (List.mem_append_left _ met) fun e' he' => ?_⟩
      exact (hlast e' he').elim (only e') (hreply e')

/-! ## Eating -/

theorem length_fetched_of_eat {kind : TokenKind} {p q : Parser} {o : Except ExpressionError Unit}
    (h : p.eat kind = (o, q)) :
    q.fetched.length = p.fetched.length + if o.isOk then 1 else 0 := by
  by_cases hkind : p.lookahead.kind = kind
  · subst hkind
    rw [eat_lookahead] at h
    cases o with
    | ok u => rw [(fetch_ok h).2.2]; rfl
    | error e =>
      obtain ⟨e, rfl⟩ := exists_lexical_of_fetch h
      rw [(fetch_error h).1]
      rfl
  · rw [eat_mismatch hkind] at h
    cases h
    rfl

theorem Ate.length_fetched {p q : Parser} {n : Nat} (h : Ate p n q) :
    q.fetched.length = p.fetched.length + n := by
  induction h with
  | nothing => rfl
  | eaten _ eat ih => rw [length_fetched_of_eat eat, ih]; rfl
  | failed _ eat ih => rw [length_fetched_of_eat eat, ih]; rfl

/-- A new parser has on record what it has eaten, and its lookahead. -/
theorem taken_of_ate {strict : Bool} {text : List Char} {p q : Parser} {n : Nat}
    (hp : ofText strict text = .ok p) (h : Ate p n q) : q.taken = n := by
  have hfirst : p.fetched.length = 1 := by
    simpa using congrArg List.length (ofText_ok hp).2.2
  rw [taken, h.length_fetched, hfirst, Nat.add_sub_cancel_left]

/-! ## Where a history leaves a parser -/

theorem tree_eq_error_of_operand {p q : Parser} {e : ExpressionError}
    (h : Course (some depthLimit) 0 .operand none p (.error e) q) : p.tree = (.error e, q) :=
  treeWithin_eq_error (.badFirst (by decide) (.badFirst (by decide) (.badFirst (by decide) h)))

/-- A stuck parser that is asked for an expression meets the character if its lookahead is matched,
and else refuses its lookahead. -/
theorem tree_of_stuck {p : Parser} {e : LexicalError}
    (stuck : p.fetch = (.error (.lexical e), p)) :
    (BeginsOperand p.lookahead → p.tree = (.error (.lexical e), p)) ∧
      (¬BeginsOperand p.lookahead →
        p.tree = (.error (.grammatical (.noOperand p.lookahead.kind)), p)) :=
  ⟨fun stands => tree_eq_error_of_operand (.unreadOperand rfl stands stuck),
    fun stands => tree_eq_error_of_operand (.noOperand rfl stands)⟩

/-- How a parser stands in its text after calls with these replies. -/
structure StandsAfter (text : List Char) (replies : List Reply) (q : Parser) : Prop where
  /-- Its lookahead is the token behind as many as were eaten. -/
  lookahead : (start text).answer q.taken = .ok q.lookahead
  /-- Counted in a text without illegal characters, that is a token of it, or the end. -/
  tokenized : ∀ ts, tokenize text = .ok ts → q.lookahead = ts[q.taken]?.getD .endOfText
  /-- It fetched each token up to its lookahead once and in order. -/
  log : q.fetched.length = q.taken + 1 ∧ ∀ i ≤ q.taken, ∃ t, (start text).answer i = .ok t ∧
    q.fetched.reverse[i]? = some ⟨t, ((start text).after (i + 1)).position⟩
  /-- If no illegal character was met, its cursor is where the lookahead ends. -/
  free : (∀ e, .error (.lexical e) ∉ replies) → q.cursor = (start text).after (q.taken + 1) ∧
    q.lookahead.Spans text ((start text).offset q.taken) q.cursor.position
  /-- If one was met, it is the first of the text and behind the lookahead, and the cursor is
  there. -/
  stuck : ∀ e, .error (.lexical e) ∈ replies → FirstIllegal text e ∧
    (start text).answer (q.taken + 1) = .error e ∧ q.cursor.position = e.position
  /-- Whatever matches the lookahead then meets this character again, and changes nothing. -/
  retried : ∀ e, .error (.lexical e) ∈ replies →
    q.eat q.lookahead.kind = (.error (.lexical e), q) ∧
    (BeginsOperand q.lookahead → q.tree = (.error (.lexical e), q)) ∧
    (¬BeginsOperand q.lookahead →
      q.tree = (.error (.grammatical (.noOperand q.lookahead.kind)), q))
  /-- Eating a token of another kind changes nothing. -/
  mismatched : ∀ kind, q.lookahead.kind ≠ kind →
    q.eat kind = (.error (.grammatical (.mismatch kind q.lookahead.kind)), q)

theorem Rests.same {replies : List Reply} {r q : Parser} (h : Rests replies r q) :
    q.strict = r.strict ∧ q.lookahead = r.lookahead ∧ q.fetched = r.fetched ∧
      q.cursor.skipSpaces = r.cursor.skipSpaces := by
  cases h with
  | free _ => exact ⟨rfl, rfl, rfl, rfl⟩
  | stuck fetch _ _ =>
    obtain ⟨rfl, -⟩ := fetch_error fetch
    exact ⟨rfl, rfl, rfl, skipSpaces_skipSpaces _⟩

theorem Rests.taken_eq {replies : List Reply} {r q : Parser} (h : Rests replies r q) :
    q.taken = r.taken := by rw [taken, taken, h.same.2.2.1]

theorem Tracks.standsAfter {strict : Bool} {text : List Char} {replies : List Reply}
    {r q : Parser} (hr : Tracks strict text r) (h : Rests replies r q) :
    StandsAfter text replies q := by
  obtain ⟨-, hlook, hlog, -⟩ := h.same
  have htaken := h.taken_eq
  have hanswer : (start text).answer q.taken = .ok q.lookahead := by
    rw [htaken, hlook, hr.answer_eq]
  -- A lexical error among the replies is the one that the parser is stuck at.
  have hstuck : ∀ e, .error (.lexical e) ∈ replies → r.fetch = (.error (.lexical e), q) := by
    intro e he
    cases h with
    | free legal => exact absurd he (legal e)
    | stuck fetch _ only => rwa [only e he]
  refine
    { lookahead := hanswer
      tokenized := fun ts hts => Except.ok.inj (hanswer.symm.trans (answer_of_tokenize hts _))
      log := ⟨by rw [hlog, htaken, hr.fetched], fun i hi => ?_⟩
      free := fun legal => ?_
      stuck := fun e he => ?_
      retried := fun e he => ?_
      mismatched := fun kind hkind => eat_mismatch hkind }
  · rw [hlog]
    refine hr.log.getElem? ?_
    rw [hr.fetched, ← htaken]
    exact Nat.lt_succ_of_le hi
  · cases h with
    | free _ =>
      exact ⟨hr.cursor_eq, spans_next ((isIn_start text).after _) hr.stands⟩
    | stuck _ met _ => exact absurd met (legal _)
  · obtain ⟨-, hnext, hpos, -⟩ := fetch_error (hstuck e he)
    rw [hr.cursor_eq, ← htaken] at hnext
    obtain ⟨ts, d, hreads, hd⟩ := tokenize_eq_error_iff.1 (tokenize_of_answer_error hnext)
    exact ⟨firstIllegal_of_reads hreads hd, hnext, hpos⟩
  · obtain ⟨-, -, -, hagain⟩ := fetch_error (hstuck e he)
    exact ⟨(eat_lookahead q).trans hagain, tree_of_stuck hagain⟩

/-- **No history of calls loses, doubles or reorders a token,** as long as none of them ends with the
depth error. Whatever calls a new parser answers, with whatever other outcomes, it has eaten its way
to the token behind as many as were eaten. It fetched the tokens up to there in order and once each,
and its cursor is where its lookahead ends, or at the first illegal character of the text once a
call has met that: from then on the character is met again whenever the lookahead is matched, and
never passed. -/
theorem history_stands {strict : Bool} {text : List Char} {p q : Parser} {replies : List Reply}
    (hp : ofText strict text = .ok p) (h : History p replies q)
    -- A limit on the call stack may be met within a fetch, behind the token that was read; the rules
    -- meet theirs between tokens only, so what they do after a depth error is not claimed.
    (_shallow : ∀ kind, .error (.grammatical (.tooDeep kind)) ∉ replies) :
    Ate p q.taken q ∧ StandsAfter text replies q := by
  obtain ⟨⟨n, hate⟩, r, hr, hrests⟩ := h.rests (tracks_ofText hp)
  exact ⟨(taken_of_ate hp hate).symm ▸ hate, hr.standsAfter hrests⟩

end Parser

end Calculator
