/-
Tokens and expressions as JSON documents.

A node says its kind in its first member and has its parts after it, in the
order in which they are declared. Reading a document back asks for every part;
the kind may be left out, but must not be another one, and the value of a number
may be anything that stands for an integer. Members of other names are passed
over.
-/
import Calculator.Expr.Basic
import Calculator.Json.Integer

namespace Calculator

namespace Json

/-- The text of a member. -/
def memberText? (doc : Json) (name : String) : Option String := (doc.member? name).bind text?

/-- The document is an object whose member of that name, if it has one, is this text. -/
def admits (doc : Json) (name text : String) : Bool :=
  doc.members?.isSome && (doc.member? name).all (·.text? = some text)

theorem sizeOf_lt_of_member? {doc value : Json} {name : String}
    (h : doc.member? name = some value) :
    sizeOf value < sizeOf doc := by
  cases doc with
  | object members =>
    simp only [member?, lookup?, Option.map_eq_some_iff] at h
    obtain ⟨⟨n, v⟩, hf, rfl⟩ := h
    have hm : (n, v) ∈ members := List.mem_reverse.1 (List.mem_of_find?_eq_some hf)
    have := List.sizeOf_lt_of_mem hm
    simp only [Json.object.sizeOf_spec, Prod.mk.sizeOf_spec] at this ⊢
    omega
  | _ => simp [member?] at h

/-- Reads a member, by a reader that may use that a member is smaller than the whole. -/
def readMember? {α : Type} (doc : Json) (name : String)
    (read : (value : Json) → sizeOf value < sizeOf doc → Option α) : Option α :=
  match h : doc.member? name with
  | some value => read value (sizeOf_lt_of_member? h)
  | none => none

theorem readMember?_of_member? {α : Type} {doc value : Json} {name : String}
    {read : (value : Json) → sizeOf value < sizeOf doc → Option α}
    (h : doc.member? name = some value) :
    doc.readMember? name read = read value (sizeOf_lt_of_member? h) := by
  unfold readMember?
  split
  · rename_i v hv
    obtain rfl := Option.some.inj (hv.symm.trans h)
    rfl
  · rename_i hn
    rw [h] at hn; cases hn

end Json

/-! ## Tokens -/

namespace Token

/-- The token as a document. -/
def document (t : Token) : Json :=
  .object (("kind", .string t.kind.name) ::
    match t, t.symbol? with
    | integer value, _ => [("value", .integer value)]
    | _, some symbol => [("symbol", .string symbol.toString)]
    | _, none => [])

/-- The document describes the token. -/
def isDescribedBy (t : Token) (doc : Json) : Bool :=
  doc.admits "kind" t.kind.name &&
    t.symbol?.all fun symbol => doc.memberText? "symbol" = some symbol.toString

end Token

namespace Sign

/-- The sign that a document describes. -/
def ofDocument? (doc : Json) : Option Sign :=
  [plus, minus].find? fun sign => (Token.additive sign).isDescribedBy doc

end Sign

namespace Operator

/-- All operators. -/
def all : List Operator :=
  [additive .plus, additive .minus, multiplicative .times, multiplicative .divide, power]

/-- The operator that a document describes. -/
def ofDocument? (doc : Json) : Option Operator := all.find? (·.token.isDescribedBy doc)

end Operator

theorem Sign.ofDocument?_document (sign : Sign) :
    Sign.ofDocument? (Token.additive sign).document = some sign := by
  cases sign <;> decide

theorem Operator.ofDocument?_document (op : Operator) :
    Operator.ofDocument? op.token.document = some op := by
  cases op with
  | additive sign => cases sign <;> decide
  | multiplicative scaling => cases scaling <;> decide
  | power => decide

/-! ## Expressions -/

namespace Expr

/-- The name of a node's kind in a document. -/
def tag : Expr → String
  | number _ => "number"
  | unary _ _ => "unary"
  | binary _ _ _ => "binop"

/-- The expression as a document. -/
def document (e : Expr) : Json :=
  match e with
  | number value => .object [("node_type", .string e.tag), ("value", .integer value)]
  | unary sign operand => .object
    [("node_type", .string e.tag), ("op", (Token.additive sign).document),
      ("operand", operand.document)]
  | binary left op right => .object
    [("node_type", .string e.tag), ("left", left.document), ("op", op.token.document),
     ("right", right.document)]

/-- The expression that a document describes. -/
def ofDocument? (doc : Json) : Option Expr :=
  let binaryOf : Option Expr :=
    if doc.admits "node_type" "binop" then
      ((doc.member? "op").bind Operator.ofDocument?).bind fun op =>
        doc.readMember? "left" fun left _ =>
          doc.readMember? "right" fun right _ =>
            (ofDocument? left).bind fun x => (ofDocument? right).map (binary x op)
    else none
  let unaryOf : Option Expr :=
    if doc.admits "node_type" "unary" then
      ((doc.member? "op").bind Sign.ofDocument?).bind fun sign =>
        doc.readMember? "operand" fun operand _ => (ofDocument? operand).map (unary sign)
    else none
  let numberOf : Option Expr :=
    if doc.admits "node_type" "number" then
      ((doc.member? "value").bind Json.toInt?).map number
    else none
  binaryOf <|> unaryOf <|> numberOf
termination_by sizeOf doc

/-- Reading a document back gives the expression it was made of. -/
theorem ofDocument?_document (e : Expr) : ofDocument? e.document = some e := by
  induction e with
  | number value =>
    rw [document, ofDocument?]
    simp [Json.admits, Json.members?, Json.member?, Json.lookup?, Json.text?, Json.toInt?, tag]
  | unary sign operand ih =>
    have operandOf : (unary sign operand).document.member? "operand" = some operand.document := rfl
    rw [ofDocument?]
    simp only [Json.readMember?_of_member? operandOf]
    simp [document, Json.admits, Json.members?, Json.member?, Json.lookup?, Json.text?, tag,
      Sign.ofDocument?_document, ih]
  | binary left op right ihl ihr =>
    have leftOf : (binary left op right).document.member? "left" = some left.document := rfl
    have rightOf : (binary left op right).document.member? "right" = some right.document := rfl
    rw [ofDocument?]
    simp only [Json.readMember?_of_member? leftOf, Json.readMember?_of_member? rightOf]
    simp [document, Json.admits, Json.members?, Json.member?, Json.lookup?, Json.text?, tag,
      Operator.ofDocument?_document, ihl, ihr]

/-- The deepest nesting of a document that is read. -/
def deepest : Nat := 200

/-- The expression that a document describes, unless it is nested too deep. -/
def read? (doc : Json) : Option Expr :=
  if doc.nesting ≤ deepest then ofDocument? doc else none

end Expr

end Calculator
