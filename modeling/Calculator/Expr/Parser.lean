/-
Parsing by recursive descent, with one token of lookahead.

A parser holds the lookahead and a cursor behind it, and fetches the next token
only when it eats the lookahead; so nothing beyond the lookahead is ever looked
at, and a parser can be asked again after an answer or an error. `tree` parses
one expression, `eat` takes one token of a given kind.

Each rule returns a `Run`: its outcome, the parser it leaves, and the promise
that the parser has not moved away from the end of the text, and has come nearer
to it if the rule succeeded. The promise is what the recursion stops by.

Nesting is limited: an open group counts 4 and a sign whose operand is being
parsed counts 1. The rules take the limit as a parameter, `none` for no limit. A
limit on the call stack, which this stands for, is met some calls earlier or
later, as many as the caller is deep in, and it may also be met in the middle of
a fetch, when the text has been read but the lookahead is still the old one;
here it is met where an operand begins.
-/
import Calculator.Expr.Basic
import Calculator.Expr.Error

namespace Calculator

/-- The state of a parser. The readings fetched so far are kept, latest first. -/
structure Parser where
  strict : Bool
  lookahead : Token
  cursor : Cursor
  fetched : List Reading
  deriving DecidableEq, Repr

namespace Parser

/-! ## Taking tokens -/

/-- A parser on a text, with the first token fetched. -/
def ofText (strict : Bool) (text : List Char) : Except LexicalError Parser :=
  match (Cursor.start text).next with
  | (.ok token, cursor) => .ok ⟨strict, token, cursor, [⟨token, cursor.position⟩]⟩
  | (.error e, _) => .error e

/-- Replaces the lookahead by the next token. -/
def fetch (p : Parser) : Except ExpressionError Unit × Parser :=
  match p.cursor.next with
  | (.ok token, cursor) =>
    (.ok (), ⟨p.strict, token, cursor, ⟨token, cursor.position⟩ :: p.fetched⟩)
  | (.error e, cursor) => (.error (.lexical e), { p with cursor := cursor })

/-- Takes the lookahead if it is of that kind. -/
def eat (kind : TokenKind) (p : Parser) : Except ExpressionError Unit × Parser :=
  if p.lookahead.kind = kind then p.fetch
  else (.error (.grammatical (.mismatch kind p.lookahead.kind)), p)

/-- What is left to parse: the lookahead, unless it is the end, and the characters behind it. -/
def remaining (p : Parser) : Nat :=
  p.cursor.rest.length + if p.lookahead = .endOfText then 0 else 1

theorem remaining_fetch_le (p : Parser) : p.fetch.2.remaining ≤ p.remaining := by
  have hle := p.cursor.length_next_le
  unfold fetch
  split
  · rename_i t c h
    rw [h] at hle
    by_cases ht : t = .endOfText
    · have := Cursor.rest_next_of_endOfText (c := p.cursor) (by rw [h, ht])
      rw [h] at this
      simp only at this
      simp [remaining, ht, this]
    · have := Cursor.length_next_lt (c := p.cursor) (t := t) (by rw [h]) ht
      rw [h] at this
      simp only at this
      simp only [remaining, ht, ↓reduceIte]; omega
  · rename_i e c h
    rw [h] at hle
    simp only at hle
    simp only [remaining]; omega

theorem remaining_fetch_lt {p : Parser} (hp : p.lookahead ≠ .endOfText)
    (h : p.fetch.1 = .ok ()) : p.fetch.2.remaining + 1 ≤ p.remaining := by
  unfold fetch at h ⊢
  split at h
  · rename_i t c hn
    simp only
    by_cases ht : t = .endOfText
    · have := Cursor.rest_next_of_endOfText (c := p.cursor) (by rw [hn, ht])
      rw [hn] at this
      simp only at this
      simp [remaining, ht, this, hp]
    · have := Cursor.length_next_lt (c := p.cursor) (t := t) (by rw [hn]) ht
      rw [hn] at this
      simp only at this
      simp only [remaining, ht, hp, ↓reduceIte]; omega
  · cases h

theorem remaining_eat_le (kind : TokenKind) (p : Parser) :
    (p.eat kind).2.remaining ≤ p.remaining := by
  unfold eat
  split
  · exact p.remaining_fetch_le
  · exact Nat.le_refl _

/-! ## Runs of rules -/

/-- What a rule started in `start` leaves behind. A rule that succeeds has taken `least`
tokens at least. -/
structure Run (start : Parser) (least : Nat) (α : Type) where
  outcome : Except ExpressionError α
  after : Parser
  le : after.remaining ≤ start.remaining
  gain : ∀ a, outcome = .ok a → after.remaining + least ≤ start.remaining

namespace Run

variable {p : Parser} {α β : Type} {m n : Nat}

/-- A rule that fails where it starts. -/
def fail (p : Parser) (e : GrammarError) : Run p n α :=
  ⟨.error (.grammatical e), p, Nat.le_refl _, nofun⟩

/-- One rule and then another, which sees the first one's result and the parser it left. -/
@[inline] def andThen (r : Run p m α)
    (f : α → (q : Parser) → q.remaining + m ≤ p.remaining → Run q n β) : Run p (m + n) β :=
  match r with
  | ⟨.error e, q, le, _⟩ => ⟨.error e, q, le, nofun⟩
  | ⟨.ok a, q, _, gain⟩ =>
    have hq := gain a rfl
    match f a q hq with
    | ⟨outcome, s, le, gain⟩ =>
      ⟨outcome, s, by omega, fun b hb => by have := gain b hb; omega⟩

/-- The same run with its result changed. -/
@[inline] def map (f : α → β) (r : Run p m α) : Run p m β :=
  match r with
  | ⟨.error e, q, le, _⟩ => ⟨.error e, q, le, nofun⟩
  | ⟨.ok a, q, le, gain⟩ => ⟨.ok (f a), q, le, fun _ _ => gain a rfl⟩

/-- The same run, promising less. -/
@[inline] def weaken (h : m ≤ n) (r : Run p n α) : Run p m α :=
  ⟨r.outcome, r.after, r.le, fun a ha => by have := r.gain a ha; omega⟩

end Run

/-- Takes the lookahead, which is not the end. The rules take what they have looked at, so this eats
a token of the kind that they ask for (`rules_eat`). -/
def take (p : Parser) (h : p.lookahead ≠ .endOfText) : Run p 1 Unit :=
  match hf : p.fetch with
  | (outcome, q) =>
    ⟨outcome, q, by have := p.remaining_fetch_le; rwa [hf] at this,
      fun _ ha => by have := remaining_fetch_lt h (by rw [hf]; exact ha); rwa [hf] at this⟩

/-- Takes the parenthesis that ends a group. A strict parser takes the closing one only. -/
def closeGroup (p : Parser) : Run p 0 Unit :=
  if p.strict ∧ p.lookahead = .paren .opening then .fail p .groupReopened
  else
    match he : p.eat .paren with
    | (outcome, q) =>
      have hq : q.remaining ≤ p.remaining := by
        have := p.remaining_eat_le .paren; rwa [he] at this
      ⟨outcome, q, hq, fun _ _ => hq⟩

/-! ## Rules -/

/-- What an open group counts. -/
def groupDepth : Nat := 4

/-- What a sign counts whose operand is being parsed. -/
def signDepth : Nat := 1

/-- The deepest nesting that is parsed. -/
def depthLimit : Nat := 20000

/-- The nesting is deeper than the limit, if there is one. -/
def exceeds (depth : Nat) (limit : Option Nat) : Bool := limit.any (· < depth)

mutual

/-- An operand: a group, a sign with its operand, or an integer. -/
def operand (limit : Option Nat) (depth : Nat) (p : Parser) : Run p 1 Expr :=
  if exceeds depth limit then .fail p (.tooDeep p.lookahead.kind)
  else
    match h : p.lookahead with
    | .paren .opening =>
      (p.take (by simp [h])).andThen fun _ q _ =>
        ((level limit (depth + groupDepth) .sum q).andThen fun tree r _ =>
          r.closeGroup.map fun _ => tree).weaken (Nat.zero_le _)
    | .additive sign =>
      (p.take (by simp [h])).andThen fun _ q _ =>
        ((operand limit (depth + signDepth) q).map (.unary sign)).weaken (Nat.zero_le _)
    | .integer value => (p.take (by simp [h])).map fun _ => .number value
    | other => .fail p (.noOperand other.kind)
termination_by (p.remaining, 0)

/-- Operands of the next tighter level, joined by the operators of this one. -/
def level (limit : Option Nat) (depth : Nat) (l : Level) (p : Parser) : Run p 1 Expr :=
  if _hl : l = .operand then operand limit depth p
  else
    match level limit depth l.tighter p with
    | ⟨.error e, q, le, _⟩ => ⟨.error e, q, le, nofun⟩
    | ⟨.ok left, q, _, gain⟩ => more limit depth l p left q (gain left rfl)
termination_by (p.remaining, l.rank + 1)
decreasing_by
  · exact Prod.Lex.right _ (by omega)
  · exact Prod.Lex.right _ (by have := Level.rank_tighter_lt _hl; omega)
  · exact Prod.Lex.left _ _ (by have := gain left rfl; omega)

/-- The rest of a level whose operands so far are folded into `left`; the level began at
`start`. -/
def more (limit : Option Nat) (depth : Nat) (l : Level) (start : Parser) (left : Expr) (p : Parser)
    (hp : p.remaining + 1 ≤ start.remaining) : Run start 1 Expr :=
  match h : l.operator? p.lookahead with
  | none => ⟨.ok left, p, by omega, fun _ _ => hp⟩
  | some op =>
    match p.take (Level.ne_endOfText_of_operator? h) with
    | ⟨.error e, q, le, _⟩ => ⟨.error e, q, by omega, nofun⟩
    | ⟨.ok _, q, _, gain⟩ =>
      have hq := gain () rfl
      match level limit depth l.tighter q with
      | ⟨.error e, r, le, _⟩ => ⟨.error e, r, by omega, nofun⟩
      | ⟨.ok right, r, le, _⟩ => more limit depth l start (.binary left op right) r (by omega)
termination_by (p.remaining, 0)

end

/-! ## Whole expressions -/

/-- Parses one expression and stops behind it. -/
def expression (limit : Option Nat) (p : Parser) : Except ExpressionError Expr × Parser :=
  let run := level limit 0 .sum p
  (run.outcome, run.after)

/-- What a strict parser still asks of an expression: that nothing follows it. -/
def finish (e : Expr) (p : Parser) : Except ExpressionError Expr × Parser :=
  if p.strict ∧ p.lookahead ≠ .endOfText then
    (.error (.grammatical (.mismatch .endOfText p.lookahead.kind)), p)
  else (.ok e, p)

/-- Parses one expression under a limit; a strict parser takes it only if nothing follows. -/
def treeWithin (limit : Option Nat) (p : Parser) : Except ExpressionError Expr × Parser :=
  match p.expression limit with
  | (.ok e, q) => q.finish e
  | (.error e, q) => (.error e, q)

/-- Parses one expression; a strict parser takes it only if nothing follows. -/
def tree (p : Parser) : Except ExpressionError Expr × Parser := p.treeWithin (some depthLimit)

end Parser

/-- The tree of a text under a limit on nesting, and the error that stopped the parser otherwise. -/
def parseWithin (limit : Option Nat) (strict : Bool) (text : List Char) :
    Except ExpressionError Expr :=
  match Parser.ofText strict text with
  | .ok p => (p.treeWithin limit).1
  | .error e => .error (.lexical e)

/-- The tree of a text, and the error that stopped the parser otherwise. -/
def parse (strict : Bool) (text : List Char) : Except ExpressionError Expr :=
  parseWithin (some Parser.depthLimit) strict text

end Calculator
