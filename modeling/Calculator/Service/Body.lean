/-
What a client sends: a JSON object with the text of an expression and,
optionally, whether to take it strictly.

A body is rejected for what is wrong with it: it is no JSON, it is too long or
too deep to be read, or its parts are not what they should be. Of the latter
all are reported, the text before the strictness.

A body is sent in UTF-8. If its octets look like those of a wider encoding, they
are read in that.
-/
import Calculator.Json.Reader
import Calculator.Switch
import Calculator.Text.Encoding

namespace Calculator.Service

/-- What a client asks about. -/
structure Body where
  text : String
  strict : Option Bool
  deriving DecidableEq, Repr

/-- A part of a body that is not what it should be. -/
inductive Problem where
  | bodyMissing
  | bodyNoObject
  | textMissing
  | textNoString
  | strictUnclear
  | strictNoSwitch
  deriving DecidableEq, Repr

namespace Problem

/-- The name of what is wrong. -/
def kind : Problem → String
  | bodyMissing => "missing"
  | bodyNoObject => "model_attributes_type"
  | textMissing => "missing"
  | textNoString => "string_type"
  | strictUnclear => "bool_parsing"
  | strictNoSwitch => "bool_type"

/-- The value in a document that is not what it should be. For what is missing, that is the
document. -/
def subject (doc : Json) : Problem → Json
  | bodyMissing => .null
  | bodyNoObject => doc
  | textMissing => doc
  | textNoString => (doc.member? "text").getD .null
  | strictUnclear => (doc.member? "strict").getD .null
  | strictNoSwitch => (doc.member? "strict").getD .null

/-- Where it is, from the outside in. -/
def place : Problem → List String
  | bodyMissing => ["body"]
  | bodyNoObject => ["body"]
  | textMissing => ["body", "text"]
  | textNoString => ["body", "text"]
  | strictUnclear => ["body", "strict"]
  | strictNoSwitch => ["body", "strict"]

end Problem

/-- Why a body is rejected. -/
inductive Rejection where
  | malformed (position : Nat)
  | unreadable
  | invalid (doc : Json) (problems : List Problem)
  deriving Repr

namespace Body

/-- The text of a body. -/
def textOf (doc : Json) : Except Problem String :=
  match doc.member? "text" with
  | some (.string text) => .ok text
  | some _ => .error .textNoString
  | none => .error .textMissing

/-- The strictness that a body asks for. Null asks for none. -/
def strictOf (doc : Json) : Except Problem (Option Bool) :=
  match doc.member? "strict" with
  | none | some .null => .ok none
  | some value =>
    match Switch.ofJson value with
    | .ok strict => .ok (some strict)
    | .error .unclear => .error .strictUnclear
    | .error .wrongKind => .error .strictNoSwitch

/-- The body that a document describes, or all that is wrong with it. -/
def ofDocument (doc : Json) : Except (List Problem) Body :=
  match doc with
  | .object _ =>
    match textOf doc, strictOf doc with
    | .ok text, .ok strict => .ok ⟨text, strict⟩
    | .error p, .ok _ => .error [p]
    | .ok _, .error q => .error [q]
    | .error p, .error q => .error [p, q]
  | _ => .error [.bodyNoObject]

/-- The longest integer and the deepest nesting that a body may have. -/
def limits : Json.Limits := ⟨some Numeral.longest, some 900⟩

/-- The character that may stand before a body to mark its encoding. -/
def encodingMark : Char := '\ufeff'

/-- The text of a body without the mark before it. -/
def unmarked (sent : List Char) : List Char :=
  match sent with
  | [] => []
  | c :: rest => if c = encodingMark then rest else sent

/-- The text of a body, in the encoding that its octets seem to have. -/
def decode? (sent : List Char) : Option (List Char) :=
  let octets := Text.octets sent
  match Text.Encoding.guess octets with
  | .utf8 => some (unmarked sent)
  | wide => wide.decodeWide? octets

/-- The document that was sent. -/
def document (sent : List Char) : Except Rejection Json :=
  match decode? sent with
  | none => .error .unreadable
  | some text =>
    match Json.read limits text with
    | .ok doc => .ok doc
    | .error (.malformed position) => .error (.malformed position)
    | .error .refused => .error .unreadable

/-- The body that was sent. -/
def read (sent : List Char) : Except Rejection Body :=
  if sent = [] then .error (.invalid .null [.bodyMissing])
  else
    match document sent with
    | .error r => .error r
    | .ok doc => (ofDocument doc).mapError (.invalid doc)

end Body

end Calculator.Service
