/-
Expressions as documents in JSON text: decoding undoes dumping
(`decode_dump`), in every layout.

A document fits a reader whose limits admit the literals and the nesting of the
expression (`fits_document`), so its text is read back as the document
(`Json.read_write`), and the document describes the expression only
(`ofDocument?_document`).
-/
import Calculator.Expr.Document
import Calculator.Expr.Evaluation
import Calculator.Expr.Printer
import Calculator.Proofs.Expr.Spelling
import Calculator.Proofs.Json.RoundTrip

namespace Calculator

open Json (Limits Fits)

namespace Expr

/-! ## Text -/

/-- The expression dumped as a document, on one line or indented. -/
def dump (indent : Option Nat) (e : Expr) : String := Json.write indent e.document

/-- The expression that a dump describes, if a reader with these limits reads it. -/
def ofDump? (limits : Limits) (text : String) : Option Expr :=
  (Json.read limits text.toList).toOption.bind ofDocument?

/-! ## Limits -/

/-- All literals have as many digits as a reader with these limits takes. -/
def IsWithin (limits : Limits) (e : Expr) : Prop :=
  e.AllLiterals fun value => limits.digits.all (value.natAbs.repr.length ≤ ·) = true

end Expr

namespace Operator

theorem nesting_document (op : Operator) : op.token.document.nesting = 1 := by
  cases op <;> rfl

theorem fits_document {limits : Limits} {depth : Nat} (op : Operator)
    (admitted : limits.admits depth = true) : Fits limits depth op.token.document := by
  have hpair : ∀ kind symbol : String,
      Fits limits depth (.object [("kind", .string kind), ("symbol", .string symbol)]) :=
    fun kind symbol => .object admitted (by simp [Fits.string])
  cases op with
  | additive sign => exact hpair _ _
  | multiplicative scaling => exact hpair _ _
  | power =>
    change Fits limits depth (.object [("kind", .string TokenKind.power.name)])
    exact .object admitted (by simp [Fits.string])

end Operator

namespace Expr

theorem nesting_number (value : Int) : (number value).document.nesting = 1 := rfl

theorem nesting_unary (sign : Sign) (operand : Expr) :
    (unary sign operand).document.nesting = max 2 (operand.document.nesting + 1) := by
  have hop : (Token.additive sign).document.nesting = 1 := (Operator.additive sign).nesting_document
  simp only [document, Json.nesting, Json.membersNesting, hop]
  omega

theorem nesting_binary (left : Expr) (op : Operator) (right : Expr) :
    (binary left op right).document.nesting =
      max 2 (max (left.document.nesting + 1) (right.document.nesting + 1)) := by
  simp only [document, Json.nesting, Json.membersNesting, op.nesting_document]
  omega

theorem admits_of_nesting {limits : Limits} {depth most : Nat}
    (shallow : ∀ n ∈ limits.nesting, most ≤ n) (h : depth < most) : limits.admits depth = true := by
  rw [Limits.admits]
  cases hnesting : limits.nesting with
  | none => rfl
  | some n =>
    have := shallow n hnesting
    simp only [Option.all_some, decide_eq_true_eq]
    omega

theorem fits_document {limits : Limits} {e : Expr} (within : e.IsWithin limits) :
    ∀ {depth : Nat}, (∀ n ∈ limits.nesting, depth + e.document.nesting ≤ n) →
      Fits limits depth e.document := by
  induction e with
  | number value =>
    intro depth shallow
    refine .object (admits_of_nesting shallow (by simp [nesting_number])) ?_
    simp [Fits.string, Fits.integer within]
  | unary sign operand ih =>
    intro depth shallow
    rw [nesting_unary] at shallow
    have hop : Fits limits (depth + 1) (Token.additive sign).document :=
      (Operator.additive sign).fits_document (admits_of_nesting shallow (by omega))
    have hoperand : Fits limits (depth + 1) operand.document := ih within fun n hn => by
      have := shallow n hn
      omega
    refine .object (admits_of_nesting shallow (by omega)) ?_
    simp [Fits.string, hop, hoperand]
  | binary left op right ihl ihr =>
    intro depth shallow
    rw [nesting_binary] at shallow
    have hop : Fits limits (depth + 1) op.token.document :=
      op.fits_document (admits_of_nesting shallow (by omega))
    have hleft : Fits limits (depth + 1) left.document := ihl within.1 fun n hn => by
      have := shallow n hn
      omega
    have hright : Fits limits (depth + 1) right.document := ihr within.2 fun n hn => by
      have := shallow n hn
      omega
    refine .object (admits_of_nesting shallow (by omega)) ?_
    simp [Fits.string, hop, hleft, hright]

/-! ## Decoding -/

/-- **Decoding undoes dumping,** in every layout, where the reader's limits admit the literals and
the nesting. -/
theorem ofDump?_dump {limits : Limits} {e : Expr} (within : e.IsWithin limits)
    (shallow : ∀ n ∈ limits.nesting, e.document.nesting ≤ n) (indent : Option Nat) :
    ofDump? limits (e.dump indent) = some e := by
  have hfits : Fits limits 0 e.document :=
    fits_document within fun n hn => by rw [Nat.zero_add]; exact shallow n hn
  rw [ofDump?, dump, Json.read_write hfits indent]
  exact ofDocument?_document e

theorem isWithin_none (e : Expr) : e.IsWithin .none := by
  induction e with
  | number value => rfl
  | unary sign operand ih => exact ih
  | binary left op right ihl ihr => exact ⟨ihl, ihr⟩

theorem dump_injective {e f : Expr} {indent indent' : Option Nat}
    (h : e.dump indent = f.dump indent') : e = f := by
  have he := ofDump?_dump e.isWithin_none nofun indent
  have hf := ofDump?_dump f.isWithin_none nofun indent'
  rw [h, hf] at he
  exact (Option.some.inj he).symm

end Expr

/-- **Decoding a dump gives the expression that was dumped,** in every layout, if its literals have
no more digits than one conversion takes and the reader admits its nesting: no two expressions share
a dump, all layouts of one are decoded alike, and what is decoded has the same text and the same
evaluation. -/
theorem decode_dump (deepest : Option Nat) {e : Expr} (short : e.IsShort)
    (shallow : ∀ n ∈ deepest, e.document.nesting ≤ n) :
    (∀ indent, Expr.ofDump? ⟨some Numeral.longest, deepest⟩ (e.dump indent) = some e) ∧
    (∀ (f : Expr) (indent indent' : Option Nat), e.dump indent = f.dump indent' → e = f) ∧
    (∀ indent indent', Expr.ofDump? ⟨some Numeral.longest, deepest⟩ (e.dump indent) =
      Expr.ofDump? ⟨some Numeral.longest, deepest⟩ (e.dump indent')) ∧
    ∀ indent d, Expr.ofDump? ⟨some Numeral.longest, deepest⟩ (e.dump indent) = some d →
      d.text = e.text ∧ d.evaluate = e.evaluate := by
  have within : e.IsWithin ⟨some Numeral.longest, deepest⟩ := by
    simpa [Expr.IsWithin, Expr.IsShort] using short
  have hdecode := Expr.ofDump?_dump within shallow
  refine ⟨hdecode, fun _ _ _ => Expr.dump_injective, fun indent indent' => ?_, fun indent d h => ?_⟩
  · rw [hdecode indent, hdecode indent']
  · rw [hdecode indent] at h
    obtain rfl := Option.some.inj h
    exact ⟨rfl, rfl⟩

/-- The difference of a negative number and a power under a sign, decoded from its dump with an
indent of two by a reader of documents that are no deeper than they may be. -/
theorem decode_dump_indented :
    ∃ e : Expr, e.IsShort ∧ e.document.nesting ≤ Expr.deepest ∧
      Expr.ofDump? ⟨some Numeral.longest, some Expr.deepest⟩ (e.dump (some 2)) = some e := by
  refine ⟨.binary (.number (-4)) (.additive .minus)
    (.unary .plus (.binary (.number 2) .power (.number 0))), by decide, by decide, ?_⟩
  exact (decode_dump (some Expr.deepest) (by decide) (by decide)).1 (some 2)

end Calculator
