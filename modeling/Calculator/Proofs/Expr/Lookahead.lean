/-
What the outcome of a text depends on: the characters before the cursor that the
parser leaves, or through the one it cannot read (`parse_take`). The text may go
on behind them in any way.

The parser of the other text takes the same tokens and then stands before an
alike one (`Cursor.reads_take`, `Cursor.reads_take_error`), so it goes the same
course (`treeWithin_replays`).
-/
import Calculator.Proofs.Expr.Acceptance
import Calculator.Proofs.Expr.Replay

namespace Calculator

open Cursor Calculator.Parser

namespace Parser

theorem finish_replays {p q : Parser} {e : Expr} {o : Except ExpressionError Expr}
    (h : p.finish e = (o, q)) : Replays (fun p o q => p.finish e = (o, q)) p o q := by
  unfold finish at h
  split at h
  next hasked =>
    cases h
    refine .stays (not_isLexical_grammatical _) fun p' hstrict halike => ?_
    unfold finish
    rw [if_pos (by rwa [hstrict, ne_eq, halike.eq_endOfText_iff]), halike.kind_eq]
  next hfree =>
    cases h
    refine .stays (not_isLexical_ok _) fun p' hstrict halike => ?_
    unfold finish
    rw [if_neg (by rwa [hstrict, ne_eq, halike.eq_endOfText_iff])]

theorem treeWithin_eq_error {limit : Option Nat} {p q : Parser} {e : ExpressionError}
    (h : Course limit 0 .sum none p (.error e) q) : p.treeWithin limit = (.error e, q) := by
  unfold treeWithin
  rw [expression_eq_iff.2 h]

theorem treeWithin_replays {limit : Option Nat} {p q : Parser} {o : Except ExpressionError Expr}
    (h : p.treeWithin limit = (o, q)) :
    Replays (fun p o q => p.treeWithin limit = (o, q)) p o q := by
  unfold treeWithin at h
  rcases hexpr : p.expression limit with ⟨e | e, r⟩
  · rw [hexpr] at h
    cases h
    refine (expression_eq_iff.1 hexpr).replays.fails.mono fun p' o' q' hfails => ?_
    obtain ⟨e', rfl, hc⟩ := hfails
    exact treeWithin_eq_error hc
  · rw [hexpr] at h
    refine ((expression_eq_iff.1 hexpr).replays.append (finish_replays h)).mono
      fun p' o' q' hthen => ?_
    obtain ⟨r', hc, hfinish⟩ := hthen
    unfold treeWithin
    rw [expression_eq_iff.2 hc]
    exact hfinish

end Parser

theorem parse_eq_of_tree {strict : Bool} {text : List Char} {p q : Parser}
    {o : Except ExpressionError Expr} (hp : ofText strict text = .ok p) (h : p.tree = (o, q)) :
    parse strict text = o := by
  unfold parse parseWithin
  rw [hp]
  exact congrArg Prod.fst h

/-- A text is refused for its first character, or has the outcome of its new parser. -/
theorem exists_tree_of_parse {strict : Bool} {text : List Char} {o : Except ExpressionError Expr}
    (h : parse strict text = o) :
    (∃ e, (start text).next.1 = .error e ∧ o = .error (.lexical e)) ∨
      ∃ p q, ofText strict text = .ok p ∧ p.tree = (o, q) := by
  unfold parse parseWithin at h
  rcases hp : ofText strict text with e | p
  · rw [hp] at h
    subst h
    unfold ofText at hp
    split at hp
    next => cases hp
    next e' c hn =>
      cases hp
      exact .inl ⟨e, by rw [hn], rfl⟩
  · rw [hp] at h
    exact .inr ⟨p, _, rfl, Prod.ext h rfl⟩

/-- A parser that comes to an outcome, and not to a lexical error, has taken some tokens; and every
text that begins with these and with a token like its lookahead has the same outcome. -/
theorem exists_eats_of_tree {strict : Bool} {text : List Char} {p q : Parser}
    {o : Except ExpressionError Expr} (hp : ofText strict text = .ok p) (h : p.tree = (o, q))
    (answers : ¬IsLexical o) :
    ∃ ts, Eats p ts q ∧ ∀ {text' d t}, (start text').Reads ts d → d.next.1 = .ok t →
      q.lookahead.Alike t → parse strict text' = o := by
  obtain ⟨ts, r, heats, hleaves, hreplay⟩ := treeWithin_replays h
  obtain ⟨-, rfl⟩ := hleaves.eq_of_answers answers
  refine ⟨ts, heats, fun {text' d t} hreads hd halike => ?_⟩
  obtain ⟨p', q', hp', heats', hq'⟩ := exists_eats strict hreads hd
  obtain rfl : q'.lookahead = t := Except.ok.inj (hq'.next_eq.symm.trans hd)
  have hstrict : p'.strict = p.strict := (ofText_ok hp').1.trans (ofText_ok hp).1.symm
  exact parse_eq_of_tree hp' (hreplay p' q' o q' hstrict heats' halike (.stays answers))

/-- An outcome that is no lexical error is the outcome of every text that is the same up to the
cursor. -/
theorem tree_take {strict : Bool} {text : List Char} {p q : Parser}
    {o : Except ExpressionError Expr} (hp : ofText strict text = .ok p) (h : p.tree = (o, q))
    (answers : ¬IsLexical o) (hmore : q.lookahead ≠ .endOfText) (more : List Char) :
    parse strict (text.take q.cursor.position ++ more) = o := by
  obtain ⟨ts, heats, hsame⟩ := exists_eats_of_tree hp h answers
  obtain ⟨d, hreads, hq⟩ := reads_of_eats (ofText_ok hp).2.1 heats
  obtain ⟨d', t', hreads', hd', halike⟩ := reads_take hreads hq hmore more
  exact hsame hreads' hd' halike

/-- A lexical error is the outcome of every text that is the same through the character. -/
theorem tree_take_error {strict : Bool} {text : List Char} {p q : Parser} {e : LexicalError}
    (hp : ofText strict text = .ok p) (h : p.tree = (.error (.lexical e), q)) (more : List Char) :
    parse strict (text.take (e.position + 1) ++ more) = .error (.lexical e) := by
  obtain ⟨hstrict, hat, -⟩ := ofText_ok hp
  obtain ⟨ts, r, heats, hleaves, hreplay⟩ := treeWithin_replays h
  cases hleaves with
  | stays answers => exact absurd ⟨e, rfl⟩ answers
  | unread fetch =>
    obtain ⟨d, hreads, hd⟩ := reads_of_unread hat heats fetch
    obtain ⟨d', hreads', hd'⟩ := reads_take_error hreads hd more
    obtain ⟨p', r', q', hp', heats', hlook, fetch'⟩ := exists_eats_error strict hreads' hd'
    have hstrict' : p'.strict = p.strict := (ofText_ok hp').1.trans hstrict.symm
    have halike : r.lookahead.Alike r'.lookahead := hlook ▸ .same _
    exact parse_eq_of_tree hp' (hreplay p' r' _ q' hstrict' heats' halike (.unread fetch'))

/-- **Nothing beyond the lookahead influences the outcome.** A parser that ends with a tree or a
grammar error, and not at the end of its text, comes to the same in every text that is the same up
to its cursor. The lexical error of a text is the error of every text that is the same through the
character. -/
theorem parse_take (strict : Bool) (text more : List Char) :
    (∀ p q o, ofText strict text = .ok p → p.tree = (o, q) → ¬IsLexical o →
      q.lookahead ≠ .endOfText → parse strict (text.take q.cursor.position ++ more) = o) ∧
    ∀ e, parse strict text = .error (.lexical e) →
      parse strict (text.take (e.position + 1) ++ more) = .error (.lexical e) := by
  refine ⟨fun p q o hp h answers hmore => tree_take hp h answers hmore more, fun e h => ?_⟩
  obtain ⟨e', hfirst, heq⟩ | ⟨p, q, hp, htree⟩ := exists_tree_of_parse h
  · cases heq
    obtain ⟨d, hreads, hd⟩ := reads_take_error .nil hfirst more
    cases hreads
    unfold parse parseWithin ofText
    rw [show (start (text.take (e.position + 1) ++ more)).next = (.error e, _) from Prod.ext hd rfl]
  · exact tree_take_error hp htree more

/-- `1 2` is parsed as `1` however the `2` goes on, and `+#` is refused whatever follows. -/
theorem parse_take_longer :
    parse false ['1', ' ', '2', '3'] = .ok (.number 1) ∧
      parse false ['+', '#', '4'] = .error (.lexical ⟨'#', 1⟩) := by
  let p : Parser := ⟨false, .integer 1, ⟨1, [' ', '2']⟩, [⟨.integer 1, 1⟩]⟩
  let q : Parser := ⟨false, .integer 2, ⟨3, []⟩, [⟨.integer 2, 3⟩, ⟨.integer 1, 1⟩]⟩
  have hone : Step ⟨0, ['1', ' ', '2']⟩ (.ok (.integer 1)) ⟨1, [' ', '2']⟩ :=
    .token .nil (lexeme_toDigits 1) fun _ _ h => by cases h; rfl
  have htwo : Step ⟨1, [' ', '2']⟩ (.ok (.integer 2)) ⟨3, []⟩ :=
    .token .space (lexeme_toDigits 2) fun _ _ h => nomatch h
  have hp : ofText false ['1', ' ', '2'] = .ok p := by
    unfold ofText start
    rw [hone.next_eq]
  have hnumber : Course (some depthLimit) 0 .operand none p (.ok (.number 1)) q :=
    .number rfl rfl (fetch_of_next_ok htwo.next_eq)
  have hsum : Course (some depthLimit) 0 .sum none p (.ok (.number 1)) q :=
    .first (by decide) (.first (by decide) (.first (by decide) hnumber (.stop rfl)) (.stop rfl))
      (.stop rfl)
  have htree : p.tree = (.ok (.number 1), q) := treeWithin_eq_ok_iff.2 ⟨hsum, nofun⟩
  let r : Parser := ⟨false, .additive .plus, ⟨1, ['#']⟩, [⟨.additive .plus, 1⟩]⟩
  have hsign : Course (some depthLimit) 0 .operand none r (.error (.lexical ⟨'#', 1⟩)) r :=
    .unreadOperand rfl trivial rfl
  have herror : r.tree = (.error (.lexical ⟨'#', 1⟩), r) :=
    treeWithin_eq_error
      (.badFirst (by decide) (.badFirst (by decide) (.badFirst (by decide) hsign)))
  have hparse : parse false ['+', '#'] = .error (.lexical ⟨'#', 1⟩) := parse_eq_of_tree rfl herror
  exact ⟨(parse_take false ['1', ' ', '2'] ['3']).1 p q _ hp htree (not_isLexical_ok _) nofun,
    (parse_take false ['+', '#'] ['4']).2 _ hparse⟩

end Calculator
