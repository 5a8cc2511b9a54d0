/-
Requests that post the body of an expression: what such a request is (`Posts`),
that it gets the answer to its body whatever other requests there are
(`Posts.gets`), and that every document of a body can be posted
(`posts_document`).
-/
import Calculator.Proofs.Json.RoundTrip
import Calculator.Service.Response

namespace Calculator.Service

/-! ## Bodies -/

namespace Body

/-- The strictness that a document asks for: none if it leaves it out or has null. -/
def AsksFor (doc : Json) : Option Bool → Prop
  | none => doc.member? "strict" = none ∨ doc.member? "strict" = some .null
  | some strict => ∃ value, doc.member? "strict" = some value ∧ Switch.ofJson value = .ok strict

theorem strictOf_eq_ok_iff {doc : Json} {strict : Option Bool} :
    strictOf doc = .ok strict ↔ AsksFor doc strict := by
  unfold strictOf
  split
  · rename_i h
    cases strict <;> simp [AsksFor, h]
  · rename_i h
    cases strict <;> simp [AsksFor, h, Switch.ofJson]
  · rename_i value hnull hvalue
    have hgiven : ¬AsksFor doc none := by
      rintro (h | h)
      · rw [hvalue] at h
        cases h
      · obtain rfl := Option.some.inj (hvalue.symm.trans h)
        exact hnull rfl
    split
    · rename_i position hswitch
      cases strict with
      | none => simpa using hgiven
      | some strict => simp [AsksFor, hvalue, hswitch]
    all_goals
      rename_i hswitch
      cases strict with
      | none => simpa using hgiven
      | some strict => simp [AsksFor, hvalue, hswitch]

/-- **A document describes the body that has its text and asks for its strictness.** -/
theorem ofDocument_eq_ok_iff {doc : Json} {body : Body} :
    ofDocument doc = .ok body ↔
      doc.member? "text" = some (.string body.text) ∧ AsksFor doc body.strict := by
  obtain ⟨text, strict⟩ := body
  rw [← strictOf_eq_ok_iff]
  cases doc with
  | object members =>
    have htext : textOf (.object members) = .ok text ↔
        (Json.object members).member? "text" = some (.string text) := by
      unfold textOf
      split
      · rename_i h
        simp [h]
      · rename_i hother h
        simp [h]
        exact hother text
      · rename_i h
        simp [h]
    rw [← htext, ofDocument]
    cases textOf (.object members) <;> cases strictOf (.object members) <;> simp
  | _ => simp [ofDocument, Json.member?]

theorem read_eq_ok_iff {sent : List Char} {body : Body} :
    read sent = .ok body ↔
      sent ≠ [] ∧ ∃ doc, document sent = .ok doc ∧ ofDocument doc = .ok body := by
  unfold read
  split
  · rename_i h
    simp [h]
  · rename_i h
    have hmap (doc : Json) : (ofDocument doc).mapError (Rejection.invalid doc) = .ok body ↔
        ofDocument doc = .ok body := by
      cases hbody : ofDocument doc with
      | error problems => exact ⟨nofun, nofun⟩
      | ok other =>
        have hok {α : Type} : (Except.ok other : Except α Body) = .ok body ↔ other = body :=
          ⟨Except.ok.inj, congrArg _⟩
        exact hok.trans hok.symm
    cases document sent with
    | error r => simp
    | ok doc => simp [h, hmap]

/-! ## Sending -/

/-- The text of an object that has members looks like UTF-8. -/
theorem decode?_object (inside : List Char) :
    decode? ('\x7b' :: '"' :: inside) = some ('\x7b' :: '"' :: inside) := by
  have hoctets : Text.octets ('\x7b' :: '"' :: inside) = 0x7b :: 0x22 :: Text.octets inside := rfl
  have hguess : ∀ rest, Text.Encoding.guess (0x7b :: 0x22 :: rest) = .utf8 := by
    intro rest
    unfold Text.Encoding.guess
    split <;> simp_all
  rw [decode?, hoctets, hguess]
  rfl

theorem exists_toList_write {doc : Json} {body : Body} (h : ofDocument doc = .ok body) :
    ∃ inside, (Json.write none doc).toList = '\x7b' :: '"' :: inside := by
  obtain ⟨htext, -⟩ := ofDocument_eq_ok_iff.1 h
  obtain ⟨first, rest, rfl⟩ : ∃ first rest, doc = .object (first :: rest) := by
    cases doc with
    | object members =>
      cases members with
      | nil => cases htext
      | cons first rest => exact ⟨first, rest, rfl⟩
    | _ => cases htext
  rw [Json.write, Json.writeAt, Json.writeMembers_eq, List.map_cons,
    Json.toList_enclose (List.cons_ne_nil _ _)]
  cases rest with
  | nil => exact ⟨_, by simp [Json.lineBreak, Json.writeMember, Json.quoted]; rfl⟩
  | cons second rest =>
    exact ⟨_, by
      simp [Json.lineBreak, Json.writeMember, Json.quoted, List.intercalate_cons_cons]; rfl⟩

theorem document_write {doc : Json} {body : Body} (h : ofDocument doc = .ok body)
    (fits : Json.Fits limits 0 doc) : document (Json.write none doc).toList = .ok doc := by
  obtain ⟨inside, heq⟩ := exists_toList_write h
  rw [document, heq, decode?_object, ← heq]
  simp only [Json.read_write fits]

end Body

/-! ## Requests -/

/-- The request posts a body to the path of a task: what it sends is a document that has the text of
the body and asks for its strictness. -/
structure Request.Posts (r : Request) (task : Task) (body : Body) : Prop where
  method : r.method.toUpper = "POST"
  leads : ∃ address path, Address.read r.address.toList = .ok address ∧ address.target = .ok path ∧
    Route.ofPath? path = some (.task task)
  sends : ∃ sent doc, r.payload.sent = .ok sent ∧ sent ≠ [] ∧ Body.document sent = .ok doc ∧
    doc.member? "text" = some (.string body.text) ∧ Body.AsksFor doc body.strict

namespace Request.Posts

variable {r : Request} {task : Task} {body : Body}

/-- **A request that posts a body is answered** as the settings and the body say. -/
theorem respond_eq (h : r.Posts task body) (settings : Settings) :
    respond settings r = .ok (answer settings task body) := by
  obtain ⟨address, path, haddress, htarget, hroute⟩ := h.leads
  obtain ⟨sent, doc, hsent, hne, hdoc, htext, hstrict⟩ := h.sends
  have hread : Body.read sent = .ok body :=
    Body.read_eq_ok_iff.2 ⟨hne, doc, hdoc, Body.ofDocument_eq_ok_iff.2 ⟨htext, hstrict⟩⟩
  rw [respond, haddress, hsent]
  simp only [htarget]
  rw [respondAt, h.method, if_neg (by decide), hroute]
  simp [Route.method, hread]

end Request.Posts

/-! ## One after the other -/

theorem serve_of_outcomes {settings : Settings} {requests : List Request}
    {os : List (Except Breakdown Response)} (h : outcomes settings requests = .ok os) :
    serve settings requests = os.mapM id := by
  rw [serve, h]
  rfl

theorem exists_outcomes_of_serve {settings : Settings} {requests : List Request}
    {responses : List Response} (h : serve settings requests = .ok responses) :
    ∃ os, outcomes settings requests = .ok os ∧ os.mapM id = .ok responses := by
  rcases ho : outcomes settings requests with e | os
  · rw [serve, ho] at h
    cases h
  · rw [serve_of_outcomes ho] at h
    exact ⟨os, rfl, h⟩

/-- A request comes to what it comes to alone, whatever requests are before it and after it. -/
theorem outcomes_between {settings : Settings} {before after : List Request}
    {earlier later : List (Except Breakdown Response)}
    (hbefore : outcomes settings before = .ok earlier)
    (hafter : outcomes settings after = .ok later) (r : Request) :
    outcomes settings (before ++ r :: after) = .ok (earlier ++ respond settings r :: later) := by
  unfold outcomes at *
  split at hbefore
  · cases hbefore
  · rename_i hnamed
    rw [if_neg hnamed] at hafter ⊢
    cases hbefore
    cases hafter
    rw [List.map_append, List.map_cons]

/-- The request gets the response, whatever requests are served before it and after it, and also
where some of these have none; if all of them have, it is one of the responses. -/
structure Request.Gets (settings : Settings) (r : Request) (x : Response) : Prop where
  alone : respond settings r = .ok x
  between : ∀ before earlier after later, outcomes settings before = .ok earlier →
    outcomes settings after = .ok later →
      outcomes settings (before ++ r :: after) = .ok (earlier ++ .ok x :: later)
  served : ∀ before earlier after later, serve settings before = .ok earlier →
    serve settings after = .ok later →
      serve settings (before ++ r :: after) = .ok (earlier ++ x :: later)

theorem gets_of_respond {settings : Settings} {r : Request} {x : Response}
    (h : respond settings r = .ok x) : r.Gets settings x where
  alone := h
  between before earlier after later hbefore hafter := by
    rw [outcomes_between hbefore hafter, h]
  served before earlier after later hbefore hafter := by
    obtain ⟨os, hos, hearlier⟩ := exists_outcomes_of_serve hbefore
    obtain ⟨os', hos', hlater⟩ := exists_outcomes_of_serve hafter
    rw [serve_of_outcomes (outcomes_between hos hos' r), h, List.mapM_append, hearlier,
      List.mapM_cons, hlater]
    rfl

/-- **A request that posts a body gets the answer to it.** -/
theorem Request.Posts.gets {r : Request} {task : Task} {body : Body} (h : r.Posts task body)
    (settings : Settings) : r.Gets settings (answer settings task body) :=
  gets_of_respond (h.respond_eq settings)

/-! ## Posting -/

/-- The path that leads to a task. -/
def Task.path : Task → String
  | evaluate => "/evaluate"
  | tokenize => "/tokenize"
  | parse => "/parse"

/-- The request that posts a document to a task. -/
def posting (task : Task) (doc : Json) : Request := ⟨"POST", task.path, .document doc⟩

theorem Task.path_leads (task : Task) :
    ∃ address, Address.read task.path.toList = .ok address ∧
      address.target = .ok task.path.toList ∧
      Route.ofPath? task.path.toList = some (.task task) := by
  refine ⟨⟨[], [], [], none, task.path.toList⟩, ?_⟩
  cases task <;> exact ⟨rfl, rfl, rfl⟩

/-- **Every document of a body can be posted,** as far as the service reads it. -/
theorem posts_document (task : Task) {doc : Json} {body : Body}
    (h : Body.ofDocument doc = .ok body) (fits : Json.Fits Body.limits 0 doc) :
    (posting task doc).Posts task body where
  method := by simp [posting, String.toUpper, ← String.toList_inj]
  leads := by
    obtain ⟨address, hread, htarget, hroute⟩ := task.path_leads
    exact ⟨address, task.path.toList, hread, htarget, hroute⟩
  sends := by
    have hsent : (posting task doc).payload.sent = .ok (Json.write none doc).toList := by
      simp [posting, Payload.sent, fits.isFinite]
    obtain ⟨inside, heq⟩ := Body.exists_toList_write h
    obtain ⟨htext, hstrict⟩ := Body.ofDocument_eq_ok_iff.1 h
    exact ⟨_, doc, hsent, heq ▸ nofun, Body.document_write h fits, htext, hstrict⟩

end Calculator.Service
