/-
The tokens that a parser takes, against the tokens of its text.

`Eats p ts q` says that the parser `p` takes the tokens `ts` one after another
and becomes `q`. A parser stands `At` a cursor if its lookahead is what is read
there; then what it can take is what can be read (`eats_of_reads`,
`reads_of_eats`), and the log of what it fetched grows by exactly that
(`Eats.fetched`).
-/
import Calculator.Expr.Parser
import Calculator.Proofs.Token.Stream

namespace Calculator.Parser

/-- The lookahead was read at the cursor, and the parser's own cursor is behind it. -/
def At (p : Parser) (c : Cursor) : Prop := c.next = (.ok p.lookahead, p.cursor)

/-- The parser takes these tokens one after another, and becomes the other parser. -/
inductive Eats : Parser → List Token → Parser → Prop where
  | nil {p : Parser} : Eats p [] p
  | cons {p q r : Parser} {ts : List Token} (stands : p.lookahead ≠ .endOfText)
      (fetch : p.fetch = (.ok (), q)) (rest : Eats q ts r) : Eats p (p.lookahead :: ts) r

/-! ## One fetch -/

theorem fetch_of_next_ok {p : Parser} {t : Token} {c : Cursor} (h : p.cursor.next = (.ok t, c)) :
    p.fetch = (.ok (), ⟨p.strict, t, c, ⟨t, c.position⟩ :: p.fetched⟩) := by
  unfold fetch
  rw [h]

theorem fetch_of_next_error {p : Parser} {e : LexicalError} {c : Cursor}
    (h : p.cursor.next = (.error e, c)) :
    p.fetch = (.error (.lexical e), { p with cursor := c }) := by
  unfold fetch
  rw [h]

theorem fetch_ok {p q : Parser} (h : p.fetch = (.ok (), q)) :
    q.strict = p.strict ∧ q.At p.cursor ∧
      q.fetched = ⟨q.lookahead, q.cursor.position⟩ :: p.fetched := by
  rcases hn : p.cursor.next with ⟨e | t, c⟩
  · rw [fetch_of_next_error hn] at h
    cases h
  · rw [fetch_of_next_ok hn] at h
    cases h
    exact ⟨rfl, hn, rfl⟩

/-! ## Fetch after fetch -/

namespace Eats

variable {p q r : Parser} {ts us : List Token}

theorem append (h : Eats p ts q) (h' : Eats q us r) : Eats p (ts ++ us) r := by
  induction h with
  | nil => exact h'
  | cons stands fetch _ ih => exact .cons stands fetch (ih h')

theorem of_append (h : Eats p (ts ++ us) r) : ∃ q, Eats p ts q ∧ Eats q us r := by
  induction ts generalizing p with
  | nil => exact ⟨p, .nil, h⟩
  | cons t ts ih =>
    cases h with
    | cons stands fetch rest =>
      obtain ⟨q, h₁, h₂⟩ := ih rest
      exact ⟨q, .cons stands fetch h₁, h₂⟩

theorem of_cons {t : Token} (h : Eats p (t :: ts) r) :
    p.lookahead = t ∧ t ≠ .endOfText ∧ ∃ q, p.fetch = (.ok (), q) ∧ Eats q ts r := by
  cases h with
  | cons stands fetch rest => exact ⟨rfl, stands, _, fetch, rest⟩

theorem of_fetch {t : Token} (stands : p.lookahead = t) (ht : t ≠ .endOfText)
    (fetch : p.fetch = (.ok (), q)) (rest : Eats q ts r) : Eats p (t :: ts) r := by
  subst stands
  exact .cons ht fetch rest

theorem strict_eq (h : Eats p ts q) : q.strict = p.strict := by
  induction h with
  | nil => rfl
  | cons _ fetch _ ih => exact ih.trans (fetch_ok fetch).1

/-- The log holds what was taken, in order, and then the lookahead. -/
theorem fetched (h : Eats p ts q) {done : List Token}
    (hp : p.fetched.map (·.token) = p.lookahead :: done) :
    q.fetched.map (·.token) = q.lookahead :: (ts.reverse ++ done) := by
  induction h generalizing done with
  | nil => exact hp
  | @cons p q r ts _ fetch _ ih =>
    have hq : q.fetched.map (·.token) = q.lookahead :: p.lookahead :: done := by
      rw [(fetch_ok fetch).2.2, List.map_cons, hp]
    rw [ih hq]
    simp

end Eats

/-! ## Taking and reading -/

theorem At.next_eq {p : Parser} {c : Cursor} (h : p.At c) : c.next.1 = .ok p.lookahead :=
  congrArg Prod.fst h

theorem eats_of_reads {p : Parser} {c d : Cursor} {ts : List Token} {t : Token} (hp : p.At c)
    (h : c.Reads ts d) (hd : d.next.1 = .ok t) : ∃ q, Eats p ts q ∧ q.At d := by
  induction h generalizing p with
  | nil => exact ⟨p, .nil, hp⟩
  | cons next more rest ih =>
    obtain ⟨hu, rfl⟩ := Prod.mk.inj (next.symm.trans hp)
    cases hu
    have hok : ∃ v, p.cursor.next = (.ok v, p.cursor.next.2) := by
      cases rest with
      | nil => exact ⟨t, Prod.ext hd rfl⟩
      | cons next' _ _ => exact ⟨_, by rw [next']⟩
    obtain ⟨v, hv⟩ := hok
    have hfetch := fetch_of_next_ok hv
    obtain ⟨q, heats, hq⟩ := ih (fetch_ok hfetch).2.1 hd
    exact ⟨q, .cons more hfetch heats, hq⟩

theorem reads_of_eats {p q : Parser} {c : Cursor} {ts : List Token} (hp : p.At c)
    (h : Eats p ts q) : ∃ d, c.Reads ts d ∧ q.At d := by
  induction h generalizing c with
  | nil => exact ⟨c, .nil, hp⟩
  | cons stands fetch _ ih =>
    obtain ⟨d, hreads, hd⟩ := ih (fetch_ok fetch).2.1
    exact ⟨d, .cons hp stands hreads, hd⟩

/-- A parser that cannot fetch has met an error behind its lookahead, which is not the end. -/
theorem At.next_of_fetch {p q : Parser} {c : Cursor} {e : LexicalError} (hp : p.At c)
    (h : p.fetch = (.error (.lexical e), q)) :
    p.lookahead ≠ .endOfText ∧ p.cursor.next.1 = .error e := by
  rcases hn : p.cursor.next with ⟨e' | t, d⟩
  · rw [fetch_of_next_error hn] at h
    cases h
    refine ⟨fun hend => ?_, rfl⟩
    have hnext := Cursor.next_next_of_endOfText (hp.next_eq.trans (by rw [hend]))
    rw [hp, hn] at hnext
    cases hnext
  · rw [fetch_of_next_ok hn] at h
    cases h

theorem reads_of_unread {p q r : Parser} {c : Cursor} {ts : List Token} {e : LexicalError}
    (hp : p.At c) (h : Eats p ts q) (fetch : q.fetch = (.error (.lexical e), r)) :
    ∃ d, c.Reads (ts ++ [q.lookahead]) d ∧ d.next.1 = .error e := by
  obtain ⟨d, hreads, hq⟩ := reads_of_eats hp h
  obtain ⟨hne, herror⟩ := hq.next_of_fetch fetch
  exact ⟨q.cursor, hreads.append (.cons hq hne .nil), herror⟩

/-! ## The first parser of a text -/

theorem ofText_ok {strict : Bool} {text : List Char} {p : Parser}
    (h : ofText strict text = .ok p) :
    p.strict = strict ∧ p.At (Cursor.start text) ∧ p.fetched.map (·.token) = [p.lookahead] := by
  unfold ofText at h
  split at h
  next t c hn =>
    cases h
    exact ⟨rfl, hn, rfl⟩
  next => cases h

theorem ofText_eq_ok {strict : Bool} {text : List Char} {t : Token}
    (h : (Cursor.start text).next.1 = .ok t) : ∃ p, ofText strict text = .ok p := by
  unfold ofText
  split
  next => exact ⟨_, rfl⟩
  next e c hn =>
    rw [hn] at h
    cases h

theorem remaining_ofText_le {strict : Bool} {text : List Char} {p : Parser}
    (h : ofText strict text = .ok p) : p.remaining ≤ text.length := by
  obtain ⟨-, hat, -⟩ := ofText_ok h
  unfold remaining
  by_cases hend : p.lookahead = .endOfText
  · have hrest := Cursor.rest_next_of_endOfText (hat.next_eq.trans (by rw [hend]))
    rw [hat] at hrest
    rw [if_pos hend, show p.cursor.rest = [] from hrest]
    exact Nat.zero_le _
  · have hlt := Cursor.length_next_lt hat.next_eq hend
    rw [hat] at hlt
    rw [if_neg hend]
    exact hlt

theorem exists_eats {text : List Char} {d : Cursor} {ts : List Token} {t : Token} (strict : Bool)
    (h : (Cursor.start text).Reads ts d) (hd : d.next.1 = .ok t) :
    ∃ p q, ofText strict text = .ok p ∧ Eats p ts q ∧ q.At d := by
  have hfirst : ∃ u, (Cursor.start text).next.1 = .ok u := by
    cases h with
    | nil => exact ⟨t, hd⟩
    | cons next _ _ => exact ⟨_, by rw [next]⟩
  obtain ⟨u, hu⟩ := hfirst
  obtain ⟨p, hp⟩ := ofText_eq_ok hu
  obtain ⟨q, heats, hq⟩ := eats_of_reads (ofText_ok hp).2.1 h hd
  exact ⟨p, q, hp, heats, hq⟩

/-- What is read from the start of a text up to an error is taken by a new parser on it but for the
last token, behind which it cannot read. -/
theorem exists_eats_error {text : List Char} {d : Cursor} {ts : List Token} {t : Token}
    {e : LexicalError} (strict : Bool) (h : (Cursor.start text).Reads (ts ++ [t]) d)
    (hd : d.next.1 = .error e) :
    ∃ p q r, ofText strict text = .ok p ∧ Eats p ts q ∧ q.lookahead = t ∧
      q.fetch = (.error (.lexical e), r) := by
  obtain ⟨c, hreads, hlast⟩ := h.of_append
  cases hlast with
  | cons next more rest =>
    cases rest
    obtain ⟨p, q, hp, heats, hq⟩ := exists_eats strict hreads (congrArg Prod.fst next)
    obtain ⟨ht, rfl⟩ := Prod.mk.inj (next.symm.trans hq)
    cases ht
    exact ⟨p, q, _, hp, heats, rfl, fetch_of_next_error (Prod.ext hd rfl)⟩

theorem Eats.fetched_of_ofText {strict : Bool} {text : List Char} {p q : Parser} {ts : List Token}
    (h : Eats p ts q) (hp : ofText strict text = .ok p) :
    q.fetched.reverse.map (·.token) = ts ++ [q.lookahead] := by
  rw [List.map_reverse, h.fetched (ofText_ok hp).2.2]
  simp

theorem Eats.unique_of_ofText {strict : Bool} {text : List Char} {p q : Parser}
    {ts us : List Token} (hp : ofText strict text = .ok p) (h : Eats p ts q) (h' : Eats p us q) :
    ts = us := by
  have hlog := h.fetched_of_ofText hp
  rw [h'.fetched_of_ofText hp] at hlog
  exact (List.append_cancel_right hlog).symm

end Calculator.Parser
