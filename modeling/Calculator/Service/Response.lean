/-
The calculator as a service: what it answers to each request.

Three paths take a body: `/evaluate` gives the value with its steps, `/parse`
the tree, `/tokenize` the tokens. `/health` tells the version. A response
depends on the settings and on its own request only.

Some requests have no response that is a document: their address leads nowhere,
what is to be sent cannot be written, or a page is asked for. The requests after
them are answered all the same (`outcomes`). A client that takes all responses as
documents has none then (`serve`).
-/
import Calculator.Expr.Document
import Calculator.Expr.Printer
import Calculator.Interpretation
import Calculator.Json.Writer
import Calculator.Service.Address
import Calculator.Service.Body
import Calculator.Settings

namespace Calculator.Service

/-- What is sent with a request. -/
inductive Payload where
  | nothing
  | text (sent : List Char)
  | document (doc : Json)
  deriving Repr

/-- A request. -/
structure Request where
  method : String
  address : String
  payload : Payload
  deriving Repr

/-- A response. -/
structure Response where
  status : Nat
  body : Json
  deriving Repr

/-- Why a request has no response that is a document, or no request has one. -/
inductive Breakdown where
  /-- the service has no title or no version -/
  | unnamed
  | address (fault : AddressFault)
  /-- a number in what is to be sent is nan or infinite -/
  | unwritable
  /-- what is sent back is no document -/
  | noDocument
  deriving DecidableEq, Repr

/-! ## Answers -/

/-- The answer to a request that succeeded. -/
def success (members : List (String × Json)) : Response := ⟨200, .object members⟩

/-- A refusal in words. -/
def refusal (status : Nat) (detail : String) : Response :=
  ⟨status, .object [("detail", .string detail)]⟩

/-- What is wrong with the text of an expression. -/
def wrongText (e : ExpressionError) : Response :=
  let kind := match e with
    | .lexical _ => "lex"
    | .grammatical _ => "parse"
  ⟨422, .object [("error", .string kind), ("detail", .string e.message)]⟩

/-- What is wrong, and where. -/
def detail (kind : String) (place : List String) : Json :=
  .object [("type", .string kind), ("loc", .array (place.map .string))]

/-- What is wrong with a body. The values at fault are sent back, too, if they can be. -/
def wrongBody : Rejection → Except Breakdown Response
  | .malformed position =>
    .ok ⟨422, .object [("detail", .array [detail "json_invalid" ["body", position.repr]])]⟩
  | .unreadable => .ok (refusal 400 "There was an error parsing the body")
  | .invalid doc problems =>
    if problems.all fun p => (p.subject doc).isFinite then
      .ok ⟨422, .object [("detail", .array (problems.map fun p => detail p.kind p.place))]⟩
    else .error .unwritable

/-- The value as a JSON number, which nan and the infinities are not. -/
def valueDocument (x : Binary64) : Json := if x.isFinite then .real x else .null

/-- The answer with a value. -/
def evaluated (text : String) (e : Evaluation) : Response :=
  success [
    ("text", .string text), ("value", valueDocument e.value), ("display", .string e.value.display),
    ("is_finite", .bool e.value.isFinite), ("steps", .array (e.steps.map .string))]

/-- The answer with a tree. -/
def parsed (text : String) (e : Expr) : Response :=
  success [("text", .string text), ("ast", e.document), ("display", .string e.text)]

/-- The answer with tokens. -/
def tokenized (text : String) (tokens : List Token) : Response :=
  success [("text", .string text), ("tokens", .array (tokens.map Token.document))]

/-! ## Paths -/

/-- What a client may have done with an expression. -/
inductive Task where
  | evaluate
  | tokenize
  | parse
  deriving DecidableEq, Repr

/-- What a path leads to. -/
inductive Route where
  | task (t : Task)
  | health
  /-- a description of the service, which is not given here -/
  | manual
  deriving DecidableEq, Repr

namespace Route

/-- All routes with their paths. -/
def paths : List (List Char × Route) := [
  ("/evaluate".toList, task .evaluate), ("/tokenize".toList, task .tokenize),
  ("/parse".toList, task .parse), ("/health".toList, health), ("/openapi.json".toList, manual),
  ("/docs".toList, manual), ("/docs/oauth2-redirect".toList, manual), ("/redoc".toList, manual)]

/-- The path without slashes at its end. -/
def withoutSlashes (path : List Char) : List Char := (path.reverse.dropWhile (· = '/')).reverse

/-- The route of a path. Slashes at its end, and a line feed before them, do not count. -/
def ofPath? (path : List Char) : Option Route :=
  let path := withoutSlashes path
  (paths.find? fun p => path = p.1 ∨ path = p.1 ++ ['\n']).map (·.2)

/-- The method that a route takes. -/
def method : Route → String
  | task _ => "POST"
  | health | manual => "GET"

end Route

/-- The answer to a body. -/
def answer (settings : Settings) (task : Task) (body : Body) : Response :=
  let text := body.text.toList
  let strict := body.strict.getD settings.strict
  match task with
  | .evaluate =>
    match interpret strict text with
    | .ok e => evaluated body.text e
    | .error e => wrongText e
  | .parse =>
    match Calculator.parse strict text with
    | .ok e => parsed body.text e
    | .error e => wrongText e
  | .tokenize =>
    match Calculator.tokenize text with
    | .ok tokens => tokenized body.text tokens
    | .error e => wrongText (.lexical e)

/-- The answer that the service is well. -/
def wellness (settings : Settings) : Response :=
  success [("status", .string "ok"), ("version", .string settings.appVersion)]

/-! ## Requests -/

/-- What is sent with a request, as text. -/
def Payload.sent : Payload → Except Breakdown (List Char)
  | nothing => .ok []
  | text sent => .ok sent
  | document doc => if doc.isFinite then .ok (Json.write none doc).toList else .error .unwritable

/-- The response to what is sent to a path. A method that asks for the head of a response gets no
document. -/
def respondAt (settings : Settings) (path : List Char) (method : String) (sent : List Char) :
    Except Breakdown Response :=
  if method = "HEAD" then .error .noDocument
  else
    match Route.ofPath? path with
    | none => .ok (refusal 404 "Not Found")
    | some route =>
      if method ≠ route.method then .ok (refusal 405 "Method Not Allowed")
      else
        match route with
        | .manual => .error .noDocument
        | .health => .ok (wellness settings)
        | .task task =>
          match Body.read sent with
          | .ok body => .ok (answer settings task body)
          | .error e => wrongBody e

/-- The response to a request. -/
def respond (settings : Settings) (r : Request) : Except Breakdown Response :=
  match Address.read r.address.toList, r.payload.sent with
  | .error e, _ => .error (.address e)
  | .ok _, .error e => .error e
  | .ok address, .ok sent =>
    match address.target with
    | .error e => .error (.address e)
    | .ok path => respondAt settings path r.method.toUpper sent

/-- What becomes of requests one after the other, each of them answered or not. -/
def outcomes (settings : Settings) (requests : List Request) :
    Except Breakdown (List (Except Breakdown Response)) :=
  if settings.appTitle = "" ∨ settings.appVersion = "" then .error .unnamed
  else .ok (requests.map (respond settings))

/-- The responses to requests one after the other, if all of them have one. -/
def serve (settings : Settings) (requests : List Request) : Except Breakdown (List Response) := do
  (← outcomes settings requests).mapM id

end Calculator.Service
