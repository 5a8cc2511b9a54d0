/-
Every rule of the parser makes progress, and parsing ends (`rules_progress`).

At the end of its text the cursor gives `endOfText` again and again, so it is not
the tokens that run out and stop a rule. What does is that a rule takes what may
stand in front of it only, and that is never the end. The tokens that a parser may
still take are the words behind it (`pending`); each token that is taken is the
first of these (`Eats.pending_eq`), and a rule that succeeds has taken one.
-/
import Calculator.Proofs.Expr.History

namespace Calculator

namespace Cursor

/-! ## The words behind a cursor -/

/-- The tokens that are read from the cursor on, without the end. -/
def words (c : Cursor) : List Token := (c.scan.readings.map (·.token)).filter (· ≠ .endOfText)

theorem scanAfter_of_error {done : List Reading} {c d : Cursor} {e : LexicalError}
    (h : c.next = (.error e, d)) : scanAfter done c = ⟨done.reverse, some e⟩ := by
  rw [scanAfter]
  split
  next h' =>
    cases h.symm.trans h'
    rfl
  next h' => cases h.symm.trans h'

theorem scanAfter_of_ok {done : List Reading} {c d : Cursor} {t : Token}
    (h : c.next = (.ok t, d)) : scanAfter done c =
      if t = .endOfText then ⟨(⟨t, d.position⟩ :: done).reverse, none⟩
      else scanAfter (⟨t, d.position⟩ :: done) d := by
  rw [scanAfter]
  split
  next h' => cases h.symm.trans h'
  next h' =>
    cases h.symm.trans h'
    rfl

theorem readings_scanAfter_append (done earlier : List Reading) (c : Cursor) :
    (scanAfter (done ++ earlier) c).readings = earlier.reverse ++ (scanAfter done c).readings := by
  fun_induction scanAfter done c with
  | case1 done c e d h => simp [scanAfter_of_error h]
  | case2 done c d h done' => simp [scanAfter_of_ok h, done']
  | case3 done c t d h done' ht ih =>
    rw [scanAfter_of_ok h, if_neg ht, ← ih]
    rfl

theorem words_eq_nil {c : Cursor} (h : c.next.1 = .ok .endOfText) : c.words = [] := by
  rw [words, scan, scanAfter_of_ok (Prod.ext h rfl), if_pos rfl]
  rfl

theorem words_of_next {c d : Cursor} {t : Token} (h : c.next = (.ok t, d)) :
    c.words = [t].filter (· ≠ .endOfText) ++ d.words := by
  by_cases ht : t = .endOfText
  · subst ht
    have hend := next_next_of_endOfText (congrArg Prod.fst h)
    rw [h] at hend
    rw [words_eq_nil (congrArg Prod.fst h), words_eq_nil hend]
    rfl
  · have hscan := readings_scanAfter_append [] [⟨t, d.position⟩] d
    rw [List.nil_append] at hscan
    rw [words, scan, scanAfter_of_ok h, if_neg ht, hscan, List.map_append, List.filter_append]
    rfl

end Cursor

open Cursor

namespace Level

/-- The kinds of operators that a level goes on with, as the tighter levels in it do. -/
def operatorKinds : Level → List TokenKind
  | operand => []
  | power => [.power]
  | product => [.power, .multiplicative]
  | sum => [.power, .multiplicative, .additive]

end Level

theorem exists_operator_of_kind {l : Level} {t : Token} (h : t.kind ∈ l.operatorKinds) :
    ∃ op : Operator, t = op.token := by
  cases t with
  | additive sign => exact ⟨.additive sign, rfl⟩
  | multiplicative scaling => exact ⟨.multiplicative scaling, rfl⟩
  | power => exact ⟨.power, rfl⟩
  | _ => cases l <;> simp [Level.operatorKinds, Token.kind] at h

theorem Operator.rank_le_of_kind {op : Operator} {l : Level}
    (h : op.token.kind ∈ l.operatorKinds) : op.level.rank ≤ l.rank := by
  cases op <;> cases l <;>
    simp_all [Level.operatorKinds, Operator.token, Token.kind, Operator.level, Level.rank]

theorem EndsLevel.kind_notMem {l : Level} {t : Token} (h : EndsLevel l t) :
    t.kind ∉ l.operatorKinds := by
  intro hkind
  obtain ⟨op, rfl⟩ := exists_operator_of_kind hkind
  exact absurd (h op rfl) (Nat.not_lt.2 (Operator.rank_le_of_kind hkind))

namespace Parser

/-! ## The tokens that are left -/

/-- The tokens that a parser may still take: its lookahead and the words behind it. -/
def pending (p : Parser) : List Token := [p.lookahead].filter (· ≠ .endOfText) ++ p.cursor.words

theorem At.pending_eq {p : Parser} {c : Cursor} (h : p.At c) : p.pending = c.words :=
  (words_of_next h).symm

/-- **What is taken is no longer left,** and nothing else is lost with it. -/
theorem Eats.pending_eq {p q : Parser} {ts : List Token} (h : Eats p ts q) :
    p.pending = ts ++ q.pending := by
  induction h with
  | nil => rfl
  | @cons p q r ts stands fetch _ ih =>
    rw [List.cons_append, ← ih, (fetch_ok fetch).2.1.pending_eq, pending,
      List.filter_cons_of_pos (by simpa using stands)]
    rfl

theorem Eats.endOfText_notMem {p q : Parser} {ts : List Token} (h : Eats p ts q) :
    .endOfText ∉ ts := by
  induction h with
  | nil => simp
  | cons stands _ _ ih => simpa [ih] using Ne.symm stands

/-! ## Runs -/

/-- A run from `p` to `q` with the outcome `o` takes these tokens: then it stays, or it fails to
read the token behind the next. -/
structure Takes {α : Type} (p : Parser) (ts : List Token) (o : Except ExpressionError α)
    (q : Parser) : Prop where
  eats : ∃ r, Eats p ts r ∧ LeavesLike o r o q
  /-- It eats one after another, and no more succeeds. -/
  ate : Ate p ts.length q
  fetched : q.fetched.length = p.fetched.length + ts.length
  endOfText : .endOfText ∉ ts
  left : ts <+: p.pending

theorem Takes.of_eats {α : Type} {p q r : Parser} {ts : List Token} {o : Except ExpressionError α}
    (h : Eats p ts r) (hleaves : LeavesLike o r o q) : Takes p ts o q := by
  have hate : Ate p ts.length r := by simpa using h.fetches.ate .nothing
  have hate' : Ate p ts.length q := by
    obtain ⟨-, rfl⟩ | ⟨e, -, fetch⟩ := hleaves.self
    · exact hate
    · exact hate.failed ((eat_lookahead r).trans fetch)
  exact ⟨⟨r, h, hleaves⟩, hate', hate'.length_fetched, h.endOfText_notMem,
    ⟨r.pending, h.pending_eq.symm⟩⟩

/-- A level that succeeds has taken a token, and stops before no operator that it goes on with. -/
theorem Course.takes_ok {limit : Option Nat} {depth : Nat} {l : Level} {p q : Parser} {e : Expr}
    (h : Course limit depth l none p (.ok e) q) :
    ∃ ts, Takes p ts (.ok e : Except ExpressionError Expr) q ∧ ts ≠ [] ∧
      q.lookahead.kind ∉ l.operatorKinds := by
  obtain ⟨hends, ts, heats, hderives⟩ := h.sound e rfl nofun
  exact ⟨ts, .of_eats heats (.stays (not_isLexical_ok e)), hderives.ne_nil, hends.kind_notMem⟩

theorem Course.takes_error {limit : Option Nat} {depth : Nat} {l : Level} {p q : Parser}
    {e : ExpressionError} (h : Course limit depth l none p (.error e) q) :
    ∃ ts, Takes p ts (.error e : Except ExpressionError Expr) q := by
  obtain ⟨ts, r, heats, hleaves, -⟩ := h.replays
  exact ⟨ts, .of_eats heats hleaves⟩

theorem takes_treeWithin (limit : Option Nat) (p : Parser) :
    ∃ o q ts, p.treeWithin limit = (o, q) ∧ Takes p ts o q := by
  rcases htree : p.treeWithin limit with ⟨o, q⟩
  obtain ⟨ts, r, heats, hleaves, -⟩ := treeWithin_replays htree
  exact ⟨o, q, ts, rfl, .of_eats heats hleaves⟩

/-- **Every rule makes progress, and parsing ends.** From every parser, at every depth and with any
limit or none, a rule takes a course, which comes to an outcome. It eats some tokens one after
another, never the end; if it succeeds it has eaten one at least, and stops before no operator that
it goes on with. So a whole expression comes to an outcome too, and eats no more tokens than are
left. In a new parser these are the tokens of the text. -/
theorem rules_progress :
    (∀ limit depth l p, ∃ o q ts, Course limit depth l none p o q ∧
      (level limit depth l p).answer = (o, q) ∧ Takes p ts o q ∧
      ∀ e, o = .ok e → ts ≠ [] ∧ q.lookahead.kind ∉ l.operatorKinds) ∧
    (∀ limit p, ∃ o q ts, p.treeWithin limit = (o, q) ∧ Takes p ts o q ∧
      ts.length ≤ p.pending.length) ∧
    ∀ strict text p, ofText strict text = .ok p →
      p.pending = ((scan text).readings.map (·.token)).filter (· ≠ .endOfText) := by
  refine ⟨fun limit depth l p => ?_, fun limit p => ?_, fun strict text p hp => ?_⟩
  · have hcourse := course_level limit depth l p
    rcases hanswer : (level limit depth l p).answer with ⟨e | e, q⟩
    · rw [hanswer] at hcourse
      obtain ⟨ts, htakes⟩ := hcourse.takes_error
      exact ⟨_, q, ts, hcourse, rfl, htakes, nofun⟩
    · rw [hanswer] at hcourse
      obtain ⟨ts, htakes, hne, hkind⟩ := hcourse.takes_ok
      exact ⟨_, q, ts, hcourse, rfl, htakes, fun _ _ => ⟨hne, hkind⟩⟩
  · obtain ⟨o, q, ts, htree, htakes⟩ := takes_treeWithin limit p
    exact ⟨o, q, ts, htree, htakes, htakes.left.length_le⟩
  · exact (ofText_ok hp).2.1.pending_eq

/-- The sum `7` takes the one token of its text and stops before the end. -/
theorem rules_progress_number : ∃ p q ts, ofText false ['7'] = .ok p ∧ p.pending = [.integer 7] ∧
    p.treeWithin none = (.ok (.number 7), q) ∧ Takes p ts (.ok (Expr.number 7)) q ∧ ts ≠ [] ∧
      q.lookahead.kind ∉ Level.sum.operatorKinds := by
  let p : Parser := ⟨false, .integer 7, ⟨1, []⟩, [⟨.integer 7, 1⟩]⟩
  let q : Parser := ⟨false, .endOfText, ⟨1, []⟩, [⟨.endOfText, 1⟩, ⟨.integer 7, 1⟩]⟩
  have hseven : Step (start ['7']) (.ok (.integer 7)) ⟨1, []⟩ :=
    .token .nil (lexeme_toDigits 7) fun _ _ h => by cases h
  have hnext := hseven.next_eq
  have hp : ofText false ['7'] = .ok p := by rw [ofText, hnext]
  have hoperand : Course none 0 .operand none p (.ok (.number 7)) q := .number rfl rfl rfl
  have hcourse : Course none 0 .sum none p (.ok (.number 7)) q :=
    .first (by decide) (.first (by decide) (.first (by decide) hoperand (.stop rfl)) (.stop rfl))
      (.stop rfl)
  obtain ⟨hrules, -, htext⟩ := rules_progress
  obtain ⟨o, r, ts, hcourse', -, htakes, hok⟩ := hrules none 0 .sum p
  obtain ⟨rfl, rfl⟩ := hcourse'.det hcourse
  obtain ⟨hne, hkind⟩ := hok _ rfl
  have htree := treeWithin_eq_ok_iff.2 ⟨hcourse, fun h => by cases h⟩
  refine ⟨p, _, ts, hp, ?_, htree, htakes, hne, hkind⟩
  rw [htext false ['7'] p hp, scan, Cursor.scan, scanAfter_of_ok hnext, if_neg (by decide),
    scanAfter_of_ok (t := .endOfText) rfl, if_pos rfl]
  rfl

end Parser

end Calculator
