/-
A parser has no memory of the calls that it answered: asked for an expression, it
does what a new parser does on the text from its lookahead on (`tree_restarts`).

The two parsers are the same but for where positions and tokens are counted from,
and for spaces that the one may have passed on the way to an illegal character
(`Shifted`). Fetches keep that, and a run depends on what it fetches
(`Course.replays`), so the two go the same course.
-/
import Calculator.Proofs.Expr.History

namespace Calculator

open Cursor

/-- The error where positions are counted from so many characters before. -/
def ExpressionError.shift (e : ExpressionError) (n : Nat) : ExpressionError :=
  match e with
  | lexical e => lexical (e.shift n)
  | grammatical g => grammatical g

namespace Parser

/-- Where in the text the lookahead of a parser begins. -/
def begins (text : List Char) (p : Parser) : Nat := (start text).offset p.taken

/-! ## The same parser, counted from elsewhere -/

/-- Behind the spaces the first parser is the other with `n` more characters and `k` more tokens
before it. -/
structure Shifted (n k : Nat) (p p' : Parser) : Prop where
  strict : p'.strict = p.strict
  lookahead : p'.lookahead = p.lookahead
  fetched : p.fetched.length = p'.fetched.length + k
  cursor : p.cursor.skipSpaces = p'.cursor.skipSpaces.shift n

namespace Shifted

variable {n k : Nat} {p p' q : Parser}

theorem next_eq (h : Shifted n k p p') :
    p.cursor.next = (p'.cursor.next.1.mapError (·.shift n), p'.cursor.next.2.shift n) := by
  rw [← next_skipSpaces, h.cursor, next_shift, next_skipSpaces]

theorem fetch_ok (h : Shifted n k p p') (fetch : p.fetch = (.ok (), q)) :
    ∃ q', p'.fetch = (.ok (), q') ∧ Shifted n k q q' := by
  have hnext := h.next_eq
  rcases hn : p'.cursor.next with ⟨e | t, c⟩
  · rw [hn] at hnext
    cases fetch.symm.trans (fetch_of_next_error hnext)
  · rw [hn] at hnext
    cases fetch.symm.trans (fetch_of_next_ok hnext)
    refine ⟨_, fetch_of_next_ok hn, h.strict, rfl, ?_, skipSpaces_shift c n⟩
    rw [List.length_cons, List.length_cons, h.fetched, Nat.add_right_comm]

theorem fetch_lexical {e : LexicalError} (h : Shifted n k p p')
    (fetch : p.fetch = (.error (.lexical e), q)) :
    ∃ e' q', p'.fetch = (.error (.lexical e'), q') ∧ e = e'.shift n ∧ Shifted n k q q' := by
  have hnext := h.next_eq
  rcases hn : p'.cursor.next with ⟨e' | t, c⟩
  · rw [hn] at hnext
    cases fetch.symm.trans (fetch_of_next_error hnext)
    exact ⟨e', _, fetch_of_next_error hn, rfl, h.strict, h.lookahead, h.fetched,
      skipSpaces_shift c n⟩
  · rw [hn] at hnext
    cases fetch.symm.trans (fetch_of_next_ok hnext)

theorem eats {ts : List Token} (h : Shifted n k p p') (heats : Eats p ts q) :
    ∃ q', Eats p' ts q' ∧ Shifted n k q q' := by
  induction heats generalizing p' with
  | nil => exact ⟨p', .nil, h⟩
  | cons stands fetch _ ih =>
    obtain ⟨q', fetch', hq⟩ := h.fetch_ok fetch
    obtain ⟨r', hrest, hr⟩ := ih hq
    exact ⟨r', .of_fetch h.lookahead stands fetch' hrest, hr⟩

/-- Both parsers come to the same outcome, with the position of an error counted likewise. -/
theorem tree {o : Except ExpressionError Expr} (h : Shifted n k p p') (htree : p.tree = (o, q)) :
    ∃ o' q', p'.tree = (o', q') ∧ o = o'.mapError (·.shift n) ∧ Shifted n k q q' := by
  obtain ⟨ts, r, heats, hleaves, hreplay⟩ := treeWithin_replays htree
  obtain ⟨r', heats', hr⟩ := h.eats heats
  have halike : r.lookahead.Alike r'.lookahead := hr.lookahead ▸ .same _
  obtain ⟨hlex, rfl⟩ | ⟨e, rfl, fetch⟩ := hleaves.self
  · refine ⟨o, r', hreplay p' r' o r' h.strict heats' halike (.stays hlex), ?_, hr⟩
    match o with
    | .ok _ | .error (.grammatical _) => rfl
    | .error (.lexical e) => exact absurd ⟨e, rfl⟩ hlex
  · obtain ⟨e', q', fetch', rfl, hq⟩ := hr.fetch_lexical fetch
    exact ⟨.error (.lexical e'), q',
      hreplay p' r' _ q' h.strict heats' halike (.unread fetch'), rfl, hq⟩

end Shifted

/-! ## A new parser on the rest of the text -/

/-- From the rest of a text on, the tokens of the text begin where those of the rest do. -/
theorem offset_rest (text : List Char) (k m : Nat) :
    (start text).offset (k + m) =
      (start (text.drop ((start text).offset k))).offset m + (start text).offset k := by
  have hrest := ((isIn_start text).after k).skipSpaces.eq_shift
  have hspaces := congrArg skipSpaces hrest
  rw [skipSpaces_skipSpaces] at hspaces
  have hlater := skipSpaces_after hspaces m
  rw [after_shift, skipSpaces_shift] at hlater
  rw [offset, after_add, hlater]
  rfl

theorem Tracks.exists_shifted {strict : Bool} {text : List Char} {r : Parser}
    (h : Tracks strict text r) :
    ∃ p', ofText strict (text.drop (r.begins text)) = .ok p' ∧
      Shifted (r.begins text) r.taken r p' := by
  have hrest := ((isIn_start text).after r.taken).skipSpaces.eq_shift
  have hnext : ((start (text.drop (r.begins text))).shift (r.begins text)).next =
      (.ok r.lookahead, r.cursor) := by
    rw [begins, offset, ← hrest, next_skipSpaces]
    exact h.stands
  rw [next_shift] at hnext
  rcases hn : (start (text.drop (r.begins text))).next with ⟨e | t, c⟩
  · rw [hn] at hnext
    cases hnext
  · rw [hn] at hnext
    obtain ⟨ht, hc⟩ := Prod.mk.inj hnext
    refine ⟨⟨strict, t, c, [⟨t, c.position⟩]⟩, by unfold ofText; rw [hn], ?_⟩
    exact ⟨h.strict_eq.symm, Except.ok.inj ht, h.fetched.trans (Nat.add_comm ..),
      by rw [← hc, skipSpaces_shift]⟩

/-- After any calls, a parser is the new parser of the rest from its lookahead on. -/
theorem History.exists_shifted {strict : Bool} {text : List Char} {p q : Parser}
    {replies : List Reply} (h : History p replies q) (hp : ofText strict text = .ok p) :
    ∃ p', ofText strict (text.drop (q.begins text)) = .ok p' ∧
      Shifted (q.begins text) q.taken q p' := by
  obtain ⟨-, r, hr, hrests⟩ := h.rests (tracks_ofText hp)
  obtain ⟨hstrict, hlook, hlog, hspaces⟩ := hrests.same
  obtain ⟨p', hp', hshifted⟩ := hr.exists_shifted
  rw [begins, hrests.taken_eq]
  exact ⟨p', hp', hshifted.strict.trans hstrict.symm, hshifted.lookahead.trans hlook.symm,
    hlog ▸ hshifted.fetched, hspaces.trans hshifted.cursor⟩

theorem History.length_fetched {strict : Bool} {text : List Char} {p q : Parser}
    {replies : List Reply} (h : History p replies q) (hp : ofText strict text = .ok p) :
    q.fetched.length = q.taken + 1 := by
  obtain ⟨-, r, hr, hrests⟩ := h.rests (tracks_ofText hp)
  rw [hrests.same.2.2.1, hrests.taken_eq, hr.fetched]

theorem History.spans_begins {strict : Bool} {text : List Char} {p q : Parser}
    {replies : List Reply} (h : History p replies q) (hp : ofText strict text = .ok p) :
    ∃ n, q.lookahead.Spans text (q.begins text) n := by
  obtain ⟨-, r, hr, hrests⟩ := h.rests (tracks_ofText hp)
  rw [begins, hrests.taken_eq, hrests.same.2.1]
  exact ⟨_, spans_next ((isIn_start text).after _) hr.stands⟩

theorem Shifted.begins_eq {text : List Char} {k : Nat} {q q' : Parser}
    (h : Shifted ((start text).offset k) k q q') (hq : q.fetched.length = q.taken + 1)
    (hq' : q'.fetched.length = q'.taken + 1) :
    q.begins text =
      q'.begins (text.drop ((start text).offset k)) + (start text).offset k := by
  have htaken : q.taken = k + q'.taken := by
    have := h.fetched
    omega
  rw [begins, htaken, offset_rest]
  rfl

/-- **Asking for an expression does not depend on the history of a parser.** Whatever calls it has
answered, the parser comes to the outcome of a new parser on the text from its lookahead on, with
the position of an illegal character counted from there, and is left before the same token at the
same place. Where the outcome is a tree, the tokens in between are an expression: so a loose parser
that is asked again and again parses the expressions of its text one after another. -/
theorem tree_restarts {strict : Bool} {text : List Char} {p q : Parser} {replies : List Reply}
    (hp : ofText strict text = .ok p) (h : History p replies q) :
    (∃ n, q.lookahead.Spans text (q.begins text) n) ∧
      (∃ p', ofText strict (text.drop (q.begins text)) = .ok p' ∧ p'.lookahead = q.lookahead ∧
        q.tree.1 = p'.tree.1.mapError (·.shift (q.begins text)) ∧
        q.tree.2.lookahead = p'.tree.2.lookahead ∧
        q.tree.2.begins text =
          p'.tree.2.begins (text.drop (q.begins text)) + q.begins text) ∧
      ∀ e, q.tree.1 = .ok e → ∃ ts, Eats q ts q.tree.2 ∧ Derives (Closes strict) .sum ts e ∧
        EndsLevel .sum q.tree.2.lookahead := by
  obtain ⟨p', hp', hshifted⟩ := h.exists_shifted hp
  have hstrict : q.strict = strict := hshifted.strict.symm.trans (ofText_ok hp').1
  have hnext : History p _ q.tree.2 := h.call .tree rfl
  have hnew : History p' _ p'.tree.2 := History.start.call .tree rfl
  refine ⟨h.spans_begins hp, ⟨p', hp', hshifted.lookahead, ?_⟩, fun e he => ?_⟩
  · obtain ⟨o', q', htree, ho, hleft⟩ := hshifted.tree (Prod.eta q.tree).symm
    have hplace := hleft.begins_eq (hnext.length_fetched hp)
    rw [htree] at hnew ⊢
    exact ⟨ho, hleft.lookahead.symm, hplace (hnew.length_fetched hp')⟩
  · rw [← hstrict]
    obtain ⟨ts, heats, hderives, hends, -⟩ := exists_derives_of_tree_eq_ok (Prod.ext he rfl)
    exact ⟨ts, heats, hderives, hends⟩

/-- In `) +#` an expression is refused before the parenthesis and that is eaten: then a sign is met
and the character behind it, as in `+#`. -/
theorem tree_restarts_sign : ∃ p q replies,
    ofText false [')', ' ', '+', '#'] = .ok p ∧ History p replies q ∧
      replies = [.error (.grammatical (.noOperand .paren)), .ok none] ∧
      q.begins [')', ' ', '+', '#'] = 2 ∧ parse false ['+', '#'] = .error (.lexical ⟨'#', 1⟩) ∧
      q.tree.1 = .error (.lexical ⟨'#', 3⟩) := by
  let p : Parser := ⟨false, .paren .closing, ⟨1, [' ', '+', '#']⟩, [⟨.paren .closing, 1⟩]⟩
  let q : Parser :=
    ⟨false, .additive .plus, ⟨3, ['#']⟩, [⟨.additive .plus, 3⟩, ⟨.paren .closing, 1⟩]⟩
  let fresh : Parser := ⟨false, .additive .plus, ⟨1, ['#']⟩, [⟨.additive .plus, 1⟩]⟩
  have hrefused : p.tree = (.error (.grammatical (.noOperand .paren)), p) :=
    tree_eq_error_of_operand (.noOperand rfl id)
  have hfresh : fresh.tree = (.error (.lexical ⟨'#', 1⟩), fresh) :=
    tree_eq_error_of_operand (.unreadOperand rfl trivial rfl)
  have hrun : Call.tree.run p = (.error (.grammatical (.noOperand .paren)), p) := by
    rw [Call.run, hrefused]
    rfl
  have hfirst : History p [.error (.grammatical (.noOperand .paren))] p := .call .start .tree hrun
  have hcalls : History p [.error (.grammatical (.noOperand .paren)), .ok none] q :=
    .call hfirst (.eat .paren) rfl
  obtain ⟨-, ⟨p', hp', -, htree, -⟩, -⟩ :=
    @tree_restarts false [')', ' ', '+', '#'] p q _ rfl hcalls
  obtain rfl : fresh = p' := Except.ok.inj hp'
  rw [hfresh] at htree
  exact ⟨p, q, _, rfl, hcalls, rfl, rfl, parse_eq_of_tree rfl hfresh, htree⟩

end Parser

end Calculator
