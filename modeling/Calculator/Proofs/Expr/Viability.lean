/-
Where strict parsing reports an error: at the first token, or the first illegal
character, that no continuation of the tokens before it could have avoided
(`parse_strict_earliest`).

That the tokens before it are `Viable` is proved along the course
(`Course.completes`): wherever a level fails, the tokens it has matched begin an
expression of the level. That no sentence has the refused token behind them is
proved by parsing that sentence: its text begins with the same tokens and so
would be refused in the same way (`exists_eats_of_tree`), but it is parsed.
-/
import Calculator.Proofs.Expr.Lookahead

namespace Calculator

open Cursor Calculator.Parser

/-- The tokens can be extended to a sentence of the strict grammar. -/
def Viable (tokens : List Token) : Prop := ∃ more e, DerivesStrictly (tokens ++ more) e

theorem Viable.of_prefix {us ts : List Token} (h : us <+: ts) (viable : Viable ts) : Viable us := by
  obtain ⟨rest, rfl⟩ := h
  obtain ⟨more, e, hderives⟩ := viable
  rw [List.append_assoc] at hderives
  exact ⟨rest ++ more, e, hderives⟩

theorem viable_nil : Viable [] := ⟨[.integer 0], _, .of_operand (.number 0) _⟩

namespace Parser

/-! ## Failing -/

/-- The parser takes these tokens and then fails: it refuses its lookahead, or it cannot read on
behind the last of them, which it was about to take. -/
inductive Halts : Parser → List Token → ExpressionError → Parser → Prop where
  | refuses {p q : Parser} {ts : List Token} {g : GrammarError} (taken : Eats p ts q) :
      Halts p ts (.grammatical g) q
  | unread {p q r : Parser} {ts : List Token} {e : LexicalError} (taken : Eats p ts q)
      (fetch : q.fetch = (.error (.lexical e), r)) : Halts p (ts ++ [q.lookahead]) (.lexical e) r

namespace Halts

variable {p q r : Parser} {ts us : List Token} {e : ExpressionError} {t : Token}

theorem of_fetch (stands : p.lookahead = t) (fetch : p.fetch = (.error e, q)) :
    Halts p [t] e q := by
  obtain ⟨e, rfl⟩ := exists_lexical_of_fetch fetch
  subst stands
  exact .unread .nil fetch

theorem after (taken : Eats p ts q) (h : Halts q us e r) : Halts p (ts ++ us) e r := by
  cases h with
  | refuses taken' => exact .refuses (taken.append taken')
  | unread taken' fetch =>
    rw [← List.append_assoc]
    exact .unread (taken.append taken') fetch

theorem cons (stands : p.lookahead = t) (ht : t ≠ .endOfText) (fetch : p.fetch = (.ok (), q))
    (h : Halts q ts e r) : Halts p (t :: ts) e r :=
  .after (.of_fetch stands ht fetch .nil) h

end Halts

/-! ## Completing -/

/-- The tokens begin an expression of the level, given behind any tokens of `left` if there is a
left operand already. -/
def Begins (closes : Paren → Prop) (l : Level) (left : Option Expr) (tokens : List Token) : Prop :=
  ∃ more e, Extends closes l left (tokens ++ more) e

theorem Begins.nil (closes : Paren → Prop) (l : Level) : Begins closes l none [] :=
  ⟨[.integer 0], _, .of_operand (.number 0) l⟩

theorem BeginsOperand.begins {t : Token} (h : BeginsOperand t) (strict : Bool) :
    Begins (Closes strict) .operand none [t] := by
  have hnumber : ∀ l, Derives (Closes strict) l [.integer 0] (.number 0) :=
    (Derives.number 0).of_operand
  cases t with
  | integer n => exact ⟨[], _, .number n⟩
  | additive sign => exact ⟨[.integer 0], _, .sign sign (hnumber _)⟩
  | paren side =>
    cases side with
    | opening =>
      exact ⟨[.integer 0, .paren .closing], _, .group (hnumber _) (closes_closing strict)⟩
    | closing => exact h.elim
  | _ => exact h.elim

theorem Begins.operator {closes : Paren → Prop} {op : Operator} {left : Expr} {ts : List Token}
    (h : Begins closes op.level.tighter none ts) :
    Begins closes op.level (some left) (op.token :: ts) := by
  obtain ⟨more, right, hright⟩ := h
  refine ⟨more, .binary left op right, ?_⟩
  have := (Extends.refl closes op.level (.binary left op right)).join rfl hright
  rwa [List.append_nil] at this

/-- If the end of a group fails, a parenthesis that closes the group was still possible. -/
theorem close_completes {p q : Parser} {e : ExpressionError} (h : p.close = (.error e, q)) :
    ∃ ts, Halts p ts e q ∧ ∃ more side, ts ++ more = [.paren side] ∧ Closes p.strict side := by
  by_cases hcloses : ∃ side, p.lookahead = .paren side ∧ Closes p.strict side
  · obtain ⟨side, stands, closes⟩ := hcloses
    rw [close_eq_fetch stands closes] at h
    exact ⟨_, .of_fetch stands h, [], side, rfl, closes⟩
  · obtain ⟨g, hrefused⟩ := close_refused fun side stands closes => hcloses ⟨side, stands, closes⟩
    cases h.symm.trans (hrefused p rfl (.same _))
    exact ⟨[], .refuses .nil, [.paren .closing], .closing, rfl, closes_closing _⟩

/-- **Wherever a level fails, an expression of the level was still possible:** the tokens that it
has matched begin one. -/
theorem Course.completes {limit : Option Nat} {depth : Nat} {l : Level} {left : Option Expr}
    {p q : Parser} {o : Except ExpressionError Expr} (h : Course limit depth l left p o q) :
    ∀ err, o = .error err → ¬IsTooDeep o →
      ∃ ts, Halts p ts err q ∧ Begins (Closes p.strict) l left ts := by
  -- A part of the level that succeeded has taken words of its tree; the part that failed has a
  -- completion by induction, and what the level still needs behind it is put at the end.
  induction h with
  | tooDeep _ => exact fun _ _ shallow => absurd ⟨_, rfl⟩ shallow
  | number _ _ _ | stop _ => exact nofun
  | noOperand _ _ =>
    intro err herr _
    cases herr
    exact ⟨[], .refuses .nil, .nil _ _⟩
  | unreadOperand _ stands fetch =>
    intro err herr _
    cases herr
    exact ⟨_, .of_fetch rfl fetch, stands.begins _⟩
  | @sign _ p q r sign o _ stands fetch _ ih =>
    intro err herr shallow
    cases o with
    | ok _ => cases herr
    | error _ =>
      cases herr
      obtain ⟨ts, hhalts, more, operand, hderives⟩ := ih err rfl shallow
      rw [(fetch_ok fetch).1] at hderives
      exact ⟨_, hhalts.cons stands nofun fetch, more, _, .sign sign hderives⟩
  | @badGroup _ p q r e _ stands fetch _ ih =>
    intro err herr shallow
    cases herr
    obtain ⟨ts, hhalts, more, tree, hderives⟩ := ih e rfl shallow
    rw [(fetch_ok fetch).1] at hderives
    -- What completes the inner expression leaves the group open.
    have hgroup := hderives.group (closes_closing p.strict)
    rw [List.append_assoc] at hgroup
    exact ⟨_, hhalts.cons stands nofun fetch, more ++ [Token.paren .closing], tree, hgroup⟩
  | @group _ p q r s tree o _ stands fetch inner closed _ =>
    intro err herr _
    cases o with
    | ok _ => cases herr
    | error e =>
      cases herr
      obtain ⟨-, tokens, heats, hderives⟩ := inner.sound tree rfl nofun
      obtain ⟨ts, hhalts, more, side, hside, hcloses⟩ := close_completes closed
      rw [heats.strict_eq, (fetch_ok fetch).1] at hcloses
      rw [(fetch_ok fetch).1] at hderives
      have hgroup := hderives.group hcloses
      rw [← hside, ← List.append_assoc] at hgroup
      exact ⟨_, (hhalts.after heats).cons stands nofun fetch, more, tree, hgroup⟩
  | @badFirst _ l p q e joins _ ih =>
    intro err herr shallow
    cases herr
    obtain ⟨ts, hhalts, more, operand, hderives⟩ := ih e rfl shallow
    exact ⟨ts, hhalts, more, operand, .single joins hderives⟩
  | @first _ l p q r left o joins operand _ _ ih =>
    intro err herr shallow
    obtain ⟨-, before, heats, hderives⟩ := operand.sound left rfl nofun
    obtain ⟨ts, hhalts, more, e, hextends⟩ := ih err herr shallow
    rw [heats.strict_eq] at hextends
    have := hextends before (.single joins hderives)
    rw [← List.append_assoc] at this
    exact ⟨_, hhalts.after heats, more, e, this⟩
  | @unreadOperator _ l p q left op e stands fetch =>
    intro err herr _
    cases herr
    obtain ⟨hop, rfl⟩ := Level.operator?_eq_some_iff.1 stands
    exact ⟨_, .of_fetch hop fetch, (Begins.nil _ _).operator⟩
  | @badNext _ l p q r left op e stands fetch _ ih =>
    intro err herr shallow
    cases herr
    obtain ⟨hop, rfl⟩ := Level.operator?_eq_some_iff.1 stands
    obtain ⟨ts, hhalts, hbegins⟩ := ih e rfl shallow
    rw [(fetch_ok fetch).1] at hbegins
    have ht := hop ▸ Level.ne_endOfText_of_operator? stands
    exact ⟨_, hhalts.cons hop ht fetch, hbegins.operator⟩
  | @join _ l p q r s left right op o stands fetch operand _ _ ih =>
    intro err herr shallow
    obtain ⟨hop, hlevel⟩ := Level.operator?_eq_some_iff.1 stands
    obtain ⟨-, after, heats, hderives⟩ := operand.sound right rfl nofun
    obtain ⟨ts, hhalts, more, e, hextends⟩ := ih err herr shallow
    rw [heats.strict_eq, (fetch_ok fetch).1] at hextends
    rw [(fetch_ok fetch).1] at hderives
    have := hextends.join hlevel hderives
    rw [← List.append_assoc] at this
    have ht := hop ▸ Level.ne_endOfText_of_operator? stands
    exact ⟨_, (hhalts.after heats).cons hop ht fetch, more, e, this⟩

theorem exists_viable_of_tree {p q : Parser} {err : ExpressionError} (hstrict : p.strict = true)
    (h : p.tree = (.error err, q)) (shallow : ¬IsTooDeep (.error err)) :
    ∃ ts, Halts p ts err q ∧ Viable ts := by
  unfold tree treeWithin at h
  rcases hexpr : p.expression (some depthLimit) with ⟨e | e, r⟩
  · rw [hexpr] at h
    cases h
    obtain ⟨ts, hhalts, hbegins⟩ := (expression_eq_iff.1 hexpr).completes err rfl shallow
    rw [hstrict] at hbegins
    exact ⟨ts, hhalts, hbegins⟩
  · rw [hexpr] at h
    obtain ⟨-, ts, heats, hderives⟩ := (expression_eq_iff.1 hexpr).sound e rfl nofun
    rw [hstrict] at hderives
    dsimp only at h
    unfold finish at h
    split at h
    next =>
      cases h
      refine ⟨ts, .refuses heats, [], e, ?_⟩
      rw [List.append_nil]
      exact hderives
    next => cases h

end Parser

/-! ## Refusing -/

theorem parse_eq_ok_of_derives {limit : Option Nat} {text : List Char} {ts : List Token}
    {d : Cursor} {e : Expr} (shallow : ParsesWithin limit true text)
    (hreads : (start text).Reads ts d) (hd : d.next.1 = .ok .endOfText)
    (hderives : DerivesStrictly ts e) : parseWithin limit true text = .ok e := by
  have hderives' : Derives (Closes true) .sum ts e := hderives
  obtain ⟨p, q, hp, -, hend, hc⟩ :=
    exists_course_of_derives hreads hd hderives' (endsLevel_of_operator? rfl)
  exact parseWithin_eq_ok_iff.2
    ⟨p, q, hp, treeWithin_eq_ok_of_course shallow hp hc fun _ => hend⟩

/-- A sentence that begins with the tokens a parser took does not go on with the token that the
parser refused: a text of the sentence would be refused too. -/
theorem not_derives_of_tree {text : List Char} {p q : Parser} {g : GrammarError}
    {ts s : List Token} {e : Expr} (hp : ofText true text = .ok p)
    (h : p.tree = (.error (.grammatical g), q)) (shallow : ¬IsTooDeep (.error (.grammatical g)))
    (heats : Eats p ts q) (hderives : DerivesStrictly s e) :
    ¬ts ++ [q.lookahead] <+: s ++ [.endOfText] := by
  rintro ⟨rest, hrest⟩
  obtain ⟨us, heats', hsame⟩ := exists_eats_of_tree hp h (not_isLexical_grammatical g)
  obtain rfl := heats.unique_of_ofText hp heats'
  -- The limit does not stop the parser of the sentence either, since its error would be another.
  obtain ⟨sentence, hrenders⟩ := exists_renders (Derives.endOfText_notMem hderives)
  obtain ⟨f, hreads, hf⟩ := reads_iff_renders.2 hrenders
  have hwhole : s ++ [.endOfText] = ts ++ q.lookahead :: rest := by
    rw [← hrest, ← List.append_cons]
  obtain ⟨d, hreads', hd⟩ := hreads.exists_of_append hf hwhole
  have hrefused := hsame hreads' hd (.same _)
  have shallow' : ParsesShallowly true sentence := by
    intro kind hdeep
    cases hrefused.symm.trans hdeep
    exact shallow ⟨kind, rfl⟩
  cases hrefused.symm.trans (parse_eq_ok_of_derives shallow' hreads hf hderives)

/-! ## Texts -/

/-- The tokens could have gone on, but not with this token; the end is unexpected behind tokens
that are no sentence. -/
structure Unexpected (tokens : List Token) (t : Token) : Prop where
  viable : Viable tokens
  refused : t ≠ .endOfText → ¬Viable (tokens ++ [t])
  unfinished : t = .endOfText → ¬∃ e, DerivesStrictly tokens e

theorem exists_unexpected_of_tree {text : List Char} {p q : Parser} {g : GrammarError}
    (shallow : ParsesShallowly true text) (hp : ofText true text = .ok p)
    (h : p.tree = (.error (.grammatical g), q)) :
    ∃ ts d, (start text).Reads ts d ∧ q.At d ∧ Unexpected ts q.lookahead := by
  obtain ⟨hstrict, hat, -⟩ := ofText_ok hp
  have shallow' : ¬IsTooDeep (.error (.grammatical g)) := by
    rintro ⟨kind, heq⟩
    cases heq
    exact shallow kind (parse_eq_of_tree hp h)
  obtain ⟨ts, hhalts, viable⟩ := exists_viable_of_tree hstrict h shallow'
  cases hhalts with
  | refuses taken =>
    obtain ⟨d, hreads, hq⟩ := reads_of_eats hat taken
    refine ⟨ts, d, hreads, hq, viable, fun _ => ?_, fun hend => ?_⟩
    · rintro ⟨more, e, hderives⟩
      refine not_derives_of_tree hp h shallow' taken hderives ?_
      rw [List.append_assoc]
      exact List.prefix_append ..
    · rintro ⟨e, hderives⟩
      have hlast : ts ++ [q.lookahead] = ts ++ [.endOfText] := by rw [hend]
      exact not_derives_of_tree hp h shallow' taken hderives (hlast ▸ List.prefix_rfl)

/-- A lexical error is met behind tokens that could have gone on. -/
theorem exists_viable_of_lexical {text : List Char} {e : LexicalError}
    (h : parse true text = .error (.lexical e)) :
    ∃ ts d, (start text).Reads ts d ∧ d.next.1 = .error e ∧ Viable ts := by
  obtain ⟨e', hfirst, heq⟩ | ⟨p, q, hp, htree⟩ := exists_tree_of_parse h
  · cases heq
    exact ⟨[], _, .nil, hfirst, viable_nil⟩
  · obtain ⟨hstrict, hat, -⟩ := ofText_ok hp
    obtain ⟨ts, hhalts, viable⟩ := exists_viable_of_tree hstrict htree nofun
    cases hhalts with
    | unread taken fetch =>
      obtain ⟨d, hreads, hd⟩ := reads_of_unread hat taken fetch
      exact ⟨_, d, hreads, hd, viable⟩

/-- A text with an illegal character is refused for that character if the tokens before it could
have gone on, and for one of these tokens if not. -/
theorem parse_strict_of_illegal {text : List Char} {ts : List Token} {d : Cursor}
    {e : LexicalError} (shallow : ParsesShallowly true text) (hreads : (start text).Reads ts d)
    (hd : d.next.1 = .error e) :
    (Viable ts ∧ parse true text = .error (.lexical e)) ∨
      (¬Viable ts ∧ ∃ g, parse true text = .error (.grammatical g)) := by
  have hfinal : Final d := .of_error hd
  rcases hparse : parse true text with (e' | g) | tree
  · obtain ⟨us, f, hreads', hf, viable⟩ := exists_viable_of_lexical hparse
    obtain ⟨rfl, rfl⟩ := hreads.det hfinal hreads' (.of_error hf)
    cases hd.symm.trans hf
    exact .inl ⟨viable, rfl⟩
  · refine .inr ⟨fun viable => ?_, g, rfl⟩
    obtain ⟨e', -, heq⟩ | ⟨p, q, hp, htree⟩ := exists_tree_of_parse hparse
    · cases heq
    obtain ⟨us, f, hreads', hq, unexpected⟩ := exists_unexpected_of_tree shallow hp htree
    by_cases hend : q.lookahead = .endOfText
    · have hf := hq.next_eq
      rw [hend] at hf
      obtain ⟨-, rfl⟩ := hreads.det hfinal hreads' (.of_endOfText hf)
      cases hd.symm.trans hf
    · -- The refused token stands before the character, so it is one of those that could go on.
      have hprefix := hreads.isPrefix hfinal (hreads'.append (.cons hq hend .nil))
      exact unexpected.refused hend (viable.of_prefix hprefix)
  · obtain ⟨p, q, hp, htree⟩ := parse_eq_ok_iff.1 hparse
    obtain ⟨us, f, hreads', hf, -, -, hend⟩ := exists_derives_of_tree hp htree
    rw [hend rfl] at hf
    obtain ⟨-, rfl⟩ := hreads.det hfinal hreads' (.of_endOfText hf)
    cases hd.symm.trans hf

/-- **Strict parsing reports an error at the first possible place.** A grammar error leaves as the
lookahead the first token of the text that no sentence has behind the tokens before it, or the end
where these are no sentence. The error of an illegal character is reported exactly if it is the
first in the text and the tokens before it can be extended to a sentence; if they cannot, a grammar
error is reported and the character is not. -/
theorem parse_strict_earliest {text : List Char} (shallow : ParsesShallowly true text) :
    (∀ p q g, ofText true text = .ok p → p.tree = (.error (.grammatical g), q) →
      ∃ ts d, (start text).Reads ts d ∧ q.At d ∧ Unexpected ts q.lookahead) ∧
    (∀ e, parse true text = .error (.lexical e) ↔ FirstIllegal text e ∧
      ∃ ts d, (start text).Reads ts d ∧ d.next.1 = .error e ∧ Viable ts) ∧
    ∀ e ts d, (start text).Reads ts d → d.next.1 = .error e → ¬Viable ts →
      ∃ g, parse true text = .error (.grammatical g) := by
  refine ⟨fun p q g hp h => exists_unexpected_of_tree shallow hp h,
    fun e => ⟨fun h => ?_, fun h => ?_⟩, fun e ts d hreads hd hbroken => ?_⟩
  · obtain ⟨ts, d, hreads, hd, viable⟩ := exists_viable_of_lexical h
    exact ⟨firstIllegal_of_reads hreads hd, ts, d, hreads, hd, viable⟩
  · obtain ⟨-, ts, d, hreads, hd, viable⟩ := h
    obtain ⟨-, hparse⟩ | ⟨hbroken, -⟩ := parse_strict_of_illegal shallow hreads hd
    · exact hparse
    · exact absurd viable hbroken
  · obtain ⟨viable, -⟩ | ⟨-, hparse⟩ := parse_strict_of_illegal shallow hreads hd
    · exact absurd viable hbroken
    · exact hparse

/-- In `()#` the closing parenthesis is refused, since no sentence has an empty group, and not the
character behind it. -/
theorem parse_strict_earliest_emptyGroup :
    ParsesShallowly true ['(', ')', '#'] ∧ ¬Viable [.paren .opening, .paren .closing] ∧
      ∃ g, parse true ['(', ')', '#'] = .error (.grammatical g) := by
  have shallow : ParsesShallowly true ['(', ')', '#'] := parsesShallowly_of_length_le (by decide)
  let p : Parser := ⟨true, .paren .opening, ⟨1, [')', '#']⟩, [⟨.paren .opening, 1⟩]⟩
  let q : Parser :=
    ⟨true, .paren .closing, ⟨2, ['#']⟩, [⟨.paren .closing, 2⟩, ⟨.paren .opening, 1⟩]⟩
  have hlift : ∀ {depth r}, Course (some depthLimit) depth .operand none r
      (.error (.grammatical (.noOperand .paren))) q →
      Course (some depthLimit) depth .sum none r (.error (.grammatical (.noOperand .paren))) q :=
    fun h => .badFirst (by decide) (.badFirst (by decide) (.badFirst (by decide) h))
  have htree : p.tree = (.error (.grammatical (.noOperand .paren)), q) :=
    treeWithin_eq_error (hlift (.badGroup rfl rfl rfl (hlift (.noOperand rfl id))))
  have hfinal : (next ⟨2, ['#']⟩).1 = .error ⟨'#', 2⟩ := rfl
  have hall : (start ['(', ')', '#']).Reads [.paren .opening, .paren .closing] ⟨2, ['#']⟩ :=
    .cons rfl nofun (.cons rfl nofun .nil)
  obtain ⟨refused, -, broken⟩ := parse_strict_earliest shallow
  obtain ⟨ts, d, hreads, hq, unexpected⟩ := refused p q _ rfl htree
  have hread := hreads.append (.cons hq nofun .nil)
  obtain ⟨hts, -⟩ := hread.det (.of_error hfinal) hall (.of_error hfinal)
  have hbroken : ¬Viable [.paren .opening, .paren .closing] := hts ▸ unexpected.refused nofun
  exact ⟨shallow, hbroken, broken _ _ _ hall hfinal hbroken⟩

end Calculator
